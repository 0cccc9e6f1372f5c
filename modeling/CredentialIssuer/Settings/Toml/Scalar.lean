import CredentialIssuer.Json.Basic
import CredentialIssuer.Settings.Tree
import CredentialIssuer.Time.Date

/-! TOML scalars other than texts: switches, numbers, dates and times. -/
namespace CredentialIssuer.Settings.Toml

/-- Digits with single underscores between them. -/
private def plainDigits? (isDigit : Char → Bool) : List Char → Option (List Char)
  | [] => none
  | [c] => if isDigit c then some [c] else none
  | c :: '_' :: rest => if isDigit c then (plainDigits? isDigit rest).map (c :: ·) else none
  | c :: rest => if isDigit c then (plainDigits? isDigit rest).map (c :: ·) else none

private def inBase? (base : Nat) (cs : List Char) : Option Int := do
  let digits ← plainDigits? (fun c => (Text.digitIn? base c).isSome) cs
  let n : Int ← Text.naturalIn? base digits
  if n ≤ Json.maxInt64 then some n else none

/-- No number but zero itself begins with a zero. -/
private def decimal? (cs : List Char) : Option (List Char) := do
  let digits ← plainDigits? Text.isDigit cs
  match digits with
  | '0' :: _ :: _ => none
  | _ => some digits

private def withSign (cs : List Char) : Bool × List Char :=
  match cs with
  | '-' :: rest => (true, rest)
  | '+' :: rest => (false, rest)
  | rest => (false, rest)

private def integer? (cs : List Char) : Option Int :=
  match cs with
  | '0' :: 'x' :: rest => inBase? 16 rest
  | '0' :: 'o' :: rest => inBase? 8 rest
  | '0' :: 'b' :: rest => inBase? 2 rest
  | _ => do
    let (negative, rest) := withSign cs
    let n := Text.ofDigits (← decimal? rest)
    let n : Int := if negative then -(n : Int) else n
    if Json.minInt64 ≤ n ∧ n ≤ Json.maxInt64 then some n else none

private def power? (cs : List Char) : Option Int := do
  let (negative, rest) := withSign cs
  let n := Text.ofDigits (← plainDigits? Text.isDigit rest)
  some (if negative then -(n : Int) else n)

private def isExponentMark (c : Char) : Bool := c == 'e' || c == 'E'

/-- A point or an exponent makes a number a fraction. -/
private def finite? (negative : Bool) (cs : List Char) : Option Extended := do
  let mantissa := cs.takeWhile fun c => !isExponentMark c
  let afterMark := (cs.dropWhile fun c => !isExponentMark c).drop 1
  let places := (mantissa.dropWhile (· ≠ '.')).drop 1
  if mantissa.length = cs.length ∧ !mantissa.contains '.' then none
  let whole ← decimal? (mantissa.takeWhile (· ≠ '.'))
  let places ← if mantissa.contains '.' then plainDigits? Text.isDigit places else some []
  let exponent ← if mantissa.length < cs.length then power? afterMark else some 0
  let digits := Text.ofDigits (whole ++ places)
  match Extended.ofDecimal negative digits (exponent - places.length) with
  | .finite x => some (.finite x)
  | _ => none

private def float? (cs : List Char) : Option Extended :=
  let (negative, rest) := withSign cs
  if rest = "inf".toList then some (.infinite negative)
  else if rest = "nan".toList then some .notANumber
  else finite? negative rest

private def fraction? (cs : List Char) : Option (List Char × List Char) :=
  match cs with
  | '.' :: places =>
    let digits := places.takeWhile Text.isDigit
    let kept := Text.withoutZeros (digits.take 9)
    if digits.isEmpty then none
    else some (if kept.isEmpty then [] else '.' :: kept, places.dropWhile Text.isDigit)
  | rest => some ([], rest)

private def second? (cs : List Char) : Option (List Char × List Char) :=
  match cs with
  | ':' :: rest => do
    let (second, rest) ← Text.takeDigits? 2 rest
    if 60 < second then none
    let (places, rest) ← fraction? rest
    some (':' :: Text.padded 2 second ++ places, rest)
  | rest => some ([], rest)

/-- Hours and minutes, and seconds if there are any. -/
private def clock? (cs : List Char) : Option (List Char × List Char) := do
  let (hour, rest) ← Text.takeDigits? 2 cs
  let ':' :: rest := rest | none
  let (minute, rest) ← Text.takeDigits? 2 rest
  if 23 < hour ∨ 59 < minute then none
  let (second, rest) ← second? rest
  some (Text.padded 2 hour ++ ':' :: Text.padded 2 minute ++ second, rest)

private def zone? (cs : List Char) : Option (List Char) :=
  match cs with
  | [] => some []
  | ['Z'] => some ['Z']
  | ['z'] => some ['Z']
  | sign :: rest => do
    if sign ≠ '+' ∧ sign ≠ '-' then none
    let (hour, rest) ← Text.takeDigits? 2 rest
    let ':' :: rest := rest | none
    let (minute, []) ← Text.takeDigits? 2 rest | none
    if 23 < hour ∨ 59 < minute then none
    some (sign :: Text.padded 2 hour ++ ':' :: Text.padded 2 minute)

private def isDayMark (c : Char) : Bool := c == 'T' || c == 't' || c == ' '

/-- Dates and times are kept as texts. -/
private def moment? (cs : List Char) : Option String := do
  match Date.ofChars? (cs.take 10) with
  | some date =>
    match cs.drop 10 with
    | [] => some date.print
    | mark :: rest => do
      if !isDayMark mark then none
      let (time, rest) ← clock? rest
      some (String.ofList (date.chars ++ 'T' :: time ++ (← zone? rest)))
  | none => do
    let (time, []) ← clock? cs | none
    some (String.ofList time)

def scalar? (cs : List Char) : Option Tree :=
  if cs = "true".toList then some (.bool true)
  else if cs = "false".toList then some (.bool false)
  else
    ((integer? cs).map .integer).or (((float? cs).map .float).or ((moment? cs).map .text))

end CredentialIssuer.Settings.Toml
