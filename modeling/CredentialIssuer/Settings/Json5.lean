import CredentialIssuer.Settings.Tree
import CredentialIssuer.Text.Digits
import CredentialIssuer.Text.Segments
import CredentialIssuer.Unicode.Letter

/-! Reading JSON5 documents. -/
namespace CredentialIssuer.Settings.Json5

private def isLineEnd (c : Char) : Bool :=
  c == '\n' || c == '\r' || c == '\u2028' || c == '\u2029'

private def isSpace (c : Char) : Bool := (Text.isBlank c && c ≠ '\x85') || c == '\ufeff'

/-- What follows a comment that goes on to its closing mark. -/
private def afterComment? : List Char → Option (List Char)
  | '*' :: '/' :: rest => some rest
  | _ :: rest => afterComment? rest
  | [] => none

/-- White space and comments. -/
private def skip : (fuel : Nat) → List Char → List Char
  | 0, cs => cs
  | fuel + 1, cs =>
    match cs.dropWhile isSpace with
    | '/' :: '/' :: rest => skip fuel (rest.dropWhile (!isLineEnd ·))
    | '/' :: '*' :: rest =>
      match afterComment? rest with
      | some after => skip fuel after
      | none => '/' :: '*' :: rest
    | rest => rest

private def next (cs : List Char) : List Char := skip (cs.length + 1) cs

private def hexEscape? (width : Nat) (cs : List Char) : Option (Nat × List Char) :=
  if cs.length < width then none
  else (Text.naturalIn? 16 (cs.take width)).map fun n => (n, cs.drop width)

/-- Two halves make up a character beyond the first 65536. -/
private def unicodeEscape? (cs : List Char) : Option (Char × List Char) := do
  let (n, rest) ← hexEscape? 4 cs
  if n < 0xD800 ∨ 0xE000 ≤ n then some (Char.ofNat n, rest)
  else if n < 0xDC00 then
    let '\\' :: 'u' :: rest := rest | none
    let (low, rest) ← hexEscape? 4 rest
    if 0xDC00 ≤ low ∧ low < 0xE000 then
      some (Char.ofNat (0x10000 + (n - 0xD800) * 0x400 + (low - 0xDC00)), rest)
    else none
  else none

/-- What a backslash and what follows it stand for; a line that ends so goes on. -/
private def escape? : List Char → Option (List Char × List Char)
  | 'b' :: rest => some (['\x08'], rest)
  | 'f' :: rest => some (['\x0c'], rest)
  | 'n' :: rest => some (['\n'], rest)
  | 'r' :: rest => some (['\r'], rest)
  | 't' :: rest => some (['\t'], rest)
  | 'v' :: rest => some (['\x0b'], rest)
  | '0' :: rest => some (['\x00'], rest)
  | 'x' :: rest => (hexEscape? 2 rest).map fun (n, rest) => ([Char.ofNat n], rest)
  | 'u' :: rest => (unicodeEscape? rest).map fun (c, rest) => ([c], rest)
  | '\r' :: '\n' :: rest => some ([], rest)
  | c :: rest =>
    if isLineEnd c then some ([], rest) else if Text.isDigit c then none else some ([c], rest)
  | [] => none

private def text? (quote : Char) : (fuel : Nat) → List Char → Option (List Char × List Char)
  | 0, _ => none
  | _, [] => none
  | fuel + 1, c :: rest =>
    if c = quote then some ([], rest)
    else if c = '\n' ∨ c = '\r' then none
    else do
      let (piece, rest) ← if c = '\\' then escape? rest else some ([c], rest)
      let (text, rest) ← text? quote fuel rest
      some (piece ++ text, rest)

private def isNameStart (c : Char) : Bool := Unicode.isLetter c || c == '$' || c == '_'

private def isNameChar (c : Char) : Bool :=
  isNameStart c || Unicode.isNamePart c || c == '\u200c' || c == '\u200d'

/-- The characters of a name, some of which may be escaped. -/
private def name? (isAllowed : Char → Bool) : (fuel : Nat) → List Char →
    Option (List Char × List Char)
  | 0, _ => none
  | fuel + 1, cs =>
    match cs with
    | '\\' :: 'u' :: rest => do
      let (c, rest) ← unicodeEscape? rest
      let (name, rest) ← name? isNameChar fuel rest
      some (c :: name, rest)
    | c :: rest =>
      if isAllowed c then (name? isNameChar fuel rest).map fun (name, rest) => (c :: name, rest)
      else some ([], c :: rest)
    | [] => some ([], [])

private def key? (cs : List Char) : Option (String × List Char) :=
  match cs with
  | '"' :: rest => (text? '"' cs.length rest).map fun (k, r) => (String.ofList k, r)
  | '\'' :: rest => (text? '\'' cs.length rest).map fun (k, r) => (String.ofList k, r)
  | _ =>
    match name? isNameStart (cs.length + 1) cs with
    | some (c :: name, rest) => some (String.ofList (c :: name), rest)
    | _ => none

/-- Digits, without a zero before others. -/
private def whole (cs : List Char) : List Char × List Char :=
  match cs with
  | '0' :: rest => (['0'], rest)
  | _ => (cs.takeWhile Text.isDigit, cs.dropWhile Text.isDigit)

private def point (cs : List Char) : List Char × List Char :=
  match cs with
  | '.' :: rest => ('.' :: rest.takeWhile Text.isDigit, rest.dropWhile Text.isDigit)
  | _ => ([], cs)

private def exponent (cs : List Char) : List Char × List Char :=
  match cs with
  | e :: rest =>
    let sign := rest.takeWhile fun c => c == '+' || c == '-'
    let digits := (rest.drop sign.length).takeWhile Text.isDigit
    if (e = 'e' ∨ e = 'E') ∧ sign.length ≤ 1 ∧ !digits.isEmpty then
      (e :: sign ++ digits, rest.drop (sign.length + digits.length))
    else ([], cs)
  | [] => ([], cs)

/-- Decimal numbers are whole ones if they have neither a point nor an exponent. -/
private def decimal? (negative : Bool) (cs : List Char) : Option (Tree × List Char) := do
  let (whole, rest) := whole cs
  let (places, rest) := point rest
  if whole.isEmpty && places.length < 2 then none
  let (power, rest) := exponent rest
  if places.isEmpty && power.isEmpty then
    let n : Int := Text.ofDigits whole
    some (← Tree.ofInt? (if negative then -n else n), rest)
  else
    let .finite x ← Extended.ofChars? ((if negative then ['-'] else []) ++ whole ++ places ++ power)
      | none
    some (.float (.finite x), rest)

/-- Hexadecimal numbers have 32 bits and no sign; the named ones have no plus. -/
private def number? (cs : List Char) : Option (Tree × List Char) :=
  let named := fun (name : String) (x : Extended) (otherwise : Option (Tree × List Char)) =>
    if name.toList.isPrefixOf cs then some (.float x, cs.drop name.length) else otherwise
  named "Infinity" (.infinite false) <| named "-Infinity" (.infinite true) <|
  named "NaN" .notANumber <| named "-NaN" .notANumber <|
  match cs with
  | '+' :: rest => decimal? false rest
  | '-' :: rest => decimal? true rest
  | '0' :: x :: rest =>
    let digits := rest.takeWhile fun c => (Text.digitIn? 16 c).isSome
    if (x = 'x' ∨ x = 'X') ∧ !digits.isEmpty then do
      let n ← Text.naturalIn? 16 digits
      if n < 2 ^ 32 then some (.integer n, rest.drop digits.length) else none
    else decimal? false cs
  | _ => decimal? false cs

mutual

private def value? : (fuel : Nat) → List Char → Option (Tree × List Char)
  | 0, _ => none
  | fuel + 1, cs =>
    match cs with
    | 'n' :: 'u' :: 'l' :: 'l' :: rest => some (.nil, rest)
    | 't' :: 'r' :: 'u' :: 'e' :: rest => some (.bool true, rest)
    | 'f' :: 'a' :: 'l' :: 's' :: 'e' :: rest => some (.bool false, rest)
    | '"' :: rest => (text? '"' cs.length rest).map fun (s, r) => (.text (String.ofList s), r)
    | '\'' :: rest => (text? '\'' cs.length rest).map fun (s, r) => (.text (String.ofList s), r)
    | '[' :: rest => items? fuel [] rest
    | '\x7b' :: rest => members? fuel [] rest
    | _ => number? cs

/-- Items with commas between them, one of which may stand at the end. -/
private def items? : (fuel : Nat) → List Tree → List Char → Option (Tree × List Char)
  | 0, _, _ => none
  | fuel + 1, acc, cs =>
    match next cs with
    | ']' :: rest => some (.list acc.reverse, rest)
    | cs => do
      let (item, rest) ← value? fuel cs
      match next rest with
      | ',' :: rest => items? fuel (item :: acc) rest
      | ']' :: rest => some (.list (item :: acc).reverse, rest)
      | _ => none

/-- Members with commas between them, one of which may stand at the end. -/
private def members? : (fuel : Nat) → Tree.Entries → List Char → Option (Tree × List Char)
  | 0, _, _ => none
  | fuel + 1, acc, cs =>
    match next cs with
    | '\x7d' :: rest => some (.table acc, rest)
    | cs => do
      let (name, rest) ← key? cs
      let ':' :: rest := next rest | none
      let (value, rest) ← value? fuel (next rest)
      let acc := Tree.put name value acc
      match next rest with
      | ',' :: rest => members? fuel acc rest
      | '\x7d' :: rest => some (.table acc, rest)
      | _ => none

end

/-- The value that a document spells out. -/
def read? (text : String) : Option Tree :=
  let cs := text.toList
  match value? (2 * cs.length + 2) (next cs) with
  | some (value, rest) => if (next rest).isEmpty then some value else none
  | none => none

end CredentialIssuer.Settings.Json5
