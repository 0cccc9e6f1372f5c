import CredentialIssuer.Text.Segments
import CredentialIssuer.Text.Digits

/-! Addresses of hosts: four numbers with dots, or eight groups of hexadecimal digits. -/
namespace CredentialIssuer.Ip

/-- A number below 256 without leading zeros. -/
def octet? (cs : List Char) : Option Nat := do
  let n ← Text.natural? cs
  if n ≤ 255 ∧ cs.length ≤ 3 ∧ (cs.head? ≠ some '0' ∨ cs.length = 1) then some n else none

/-- Exactly four octets, in the order written. -/
def v4? (cs : List Char) : Option (List Nat) := do
  let octets ← (Text.segments '.' cs).mapM octet?
  if octets.length = 4 then some octets else none

def v4Chars (octets : List Nat) : List Char :=
  Text.join '.' (octets.map fun n => (toString n).toList)

def group? (cs : List Char) : Option Nat :=
  if cs.length ≤ 4 then Text.naturalIn? 16 cs else none

/-- Groups between colons; the last two may be written as four octets where `dotted` says so. -/
def groups? (dotted : Bool) : List (List Char) → Option (List Nat)
  | [] => some []
  | [last] =>
    match group? last with
    | some n => some [n]
    | none =>
      if dotted then
        match v4? last with
        | some [a, b, c, d] => some [256 * a + b, 256 * c + d]
        | _ => none
      else none
  | group :: rest => do some ((← group? group) :: (← groups? dotted rest))

def colonGroups? (dotted : Bool) (cs : List Char) : Option (List Nat) :=
  if cs.isEmpty then some [] else groups? dotted (Text.segments ':' cs)

/-- What stands before and after the first two colons in a row. -/
def splitDouble? : List Char → Option (List Char × List Char)
  | ':' :: ':' :: rest => some ([], rest)
  | c :: rest => (splitDouble? rest).map fun (before, after) => (c :: before, after)
  | [] => none

/-- Eight groups, or fewer with two colons in the place of those that are zero. -/
def v6? (cs : List Char) : Option (List Nat) :=
  match splitDouble? cs with
  | some (before, after) => do
    let left ← colonGroups? false before
    let right ← colonGroups? true after
    if left.length + right.length ≤ 7 then
      some (left ++ List.replicate (8 - left.length - right.length) 0 ++ right)
    else none
  | none => do
    let groups ← colonGroups? true cs
    if groups.length = 8 then some groups else none

/-- Length of the run of zeros at the front. -/
def zeroRun (groups : List Nat) : Nat := (groups.takeWhile (· = 0)).length

/-- Where the longest run of at least two zeros begins, the first of equals. -/
def longestRun (groups : List Nat) : Option (Nat × Nat) :=
  let runs := (List.range groups.length).map fun i => (i, zeroRun (groups.drop i))
  runs.foldl (fun best run =>
    match best with
    | none => if 2 ≤ run.2 then some run else none
    | some b => if b.2 < run.2 then some run else some b) none

def hexChars (n : Nat) : List Char := Nat.toDigits 16 n

def colonJoin (groups : List Nat) : List Char := Text.join ':' (groups.map hexChars)

/-- The longest run of zeros is left out. -/
def v6Chars (groups : List Nat) : List Char :=
  match longestRun groups with
  | some (start, length) =>
    colonJoin (groups.take start) ++ ':' :: ':' :: colonJoin (groups.drop (start + length))
  | none => colonJoin groups

/-- As `v6Chars`, with the dotted form for addresses mapped from four octets. -/
def v6MappedChars (groups : List Nat) : List Char :=
  match groups with
  | [0, 0, 0, 0, 0, 0xffff, a, b] =>
    "::ffff:".toList ++ v4Chars [a / 256, a % 256, b / 256, b % 256]
  | groups => v6Chars groups

end CredentialIssuer.Ip
