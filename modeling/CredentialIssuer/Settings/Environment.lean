import CredentialIssuer.Settings.Path

/-! Settings from environment variables. -/
namespace CredentialIssuer.Settings.Environment

abbrev Bindings := List (String × String)

def get? (bindings : Bindings) (name : String) : Option String := bindings.lookup name

/-- What the names of settings begin with, in lower case. -/
private def marker : List Char := "passport_cri__".toList

private def dotted : List Char → List Char
  | '_' :: '_' :: rest => '.' :: dotted rest
  | c :: rest => c :: dotted rest
  | [] => []

/-- Beyond ASCII, only the Kelvin sign has a lower case that paths are written in. -/
private def lowered (c : Char) : Char := if c = '\u212a' then 'k' else c.toLower

/-- The path that a variable names: two underscores part its names. -/
def path? (name : String) : Option Path :=
  let lower := name.toList.map lowered
  if marker.isPrefixOf lower then
    some (Path.ofText (String.ofList (dotted (lower.drop marker.length))))
  else none

/-- A whole number of 64 bits, with a sign or none. -/
def signedInteger? (cs : List Char) : Option Int := do
  let (sign, digits) ← Extended.signed? cs
  let n : Int := sign * (← Text.natural? digits)
  if Json.minInt64 ≤ n ∧ n ≤ Json.maxInt64 then some n else none

/-- A text that looks like a switch or a number is taken for one. -/
def guess (text : String) : Tree :=
  if text.toLower = "true" then .bool true
  else if text.toLower = "false" then .bool false
  else
    match signedInteger? text.toList, Extended.ofChars? text.toList with
    | some n, _ => .integer n
    | none, some x => .float x
    | none, none => .text text

/-- Lays the settings of an environment over others. -/
def overlay (bindings : Bindings) (entries : Tree.Entries) : Tree.Entries :=
  bindings.foldl (fun entries (name, text) =>
    match path? name with
    | some path => path.set (guess text) entries
    | none => entries) entries

end CredentialIssuer.Settings.Environment
