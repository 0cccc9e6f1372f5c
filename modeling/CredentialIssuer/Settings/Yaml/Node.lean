import CredentialIssuer.Settings.Tree

/-! What YAML documents are made of, and the kinds of scalars that stand without quotes. -/
namespace CredentialIssuer.Settings.Yaml

inductive Scalar where
  | nil
  | bool (value : Bool)
  | integer (value : Int)
  /-- As it is written. -/
  | real (text : String)
  | text (value : String)
  deriving DecidableEq, Repr

inductive Node where
  | scalar (value : Scalar)
  | list (items : List Node)
  | table (entries : List (Scalar × Node))
  deriving Repr, Inhabited

namespace Scalar

/-- A sign, if any, and digits, within 64 bits. -/
private def integerIn? (base : Nat) (cs : List Char) : Option Int := do
  let n : Int ← match cs with
    | '-' :: digits => (Text.naturalIn? base digits).map fun n => -(n : Int)
    | '+' :: digits => (Text.naturalIn? base digits).map fun n => (n : Int)
    | digits => (Text.naturalIn? base digits).map fun n => (n : Int)
  if Json.minInt64 ≤ n ∧ n ≤ Json.maxInt64 then some n else none

private def radixInteger? : List Char → Option Int
  | '0' :: 'x' :: digits => integerIn? 16 digits
  | '0' :: 'o' :: digits => integerIn? 8 digits
  | '+' :: rest => integerIn? 10 rest
  | _ => none

private def namedReals : List String :=
  [".inf", ".Inf", ".INF", "+.inf", "+.Inf", "+.INF", "-.inf", "-.Inf", "-.INF", ".nan", ".NaN",
    ".NAN"]

private def isReal (text : String) : Bool :=
  namedReals.contains text
    || (text.toList.any Text.isDigit && (Extended.ofChars? text.toList).isSome)

/-- What a text without quotes means. -/
def ofPlain (text : String) : Scalar :=
  match radixInteger? text.toList with
  | some n => .integer n
  | none =>
    if ["", "~", "null"].contains text then .nil
    else if ["true", "True", "TRUE"].contains text then .bool true
    else if ["false", "False", "FALSE"].contains text then .bool false
    else
      match integerIn? 10 text.toList with
      | some n => .integer n
      | none => if isReal text then .real text else .text text

/-- What a text without quotes means under a tag, given by its name if it is one of the language.
A text that does not fit its tag is nothing. -/
def ofTagged (tag : Option String) (text : String) : Scalar :=
  match tag with
  | some "bool" =>
    if text = "true" then .bool true else if text = "false" then .bool false else .nil
  | some "int" => ((integerIn? 10 text.toList).map Scalar.integer).getD .nil
  | some "float" => if isReal text then .real text else .nil
  | some "null" => .nil
  | _ => .text text

/-- The name of the entry under a key. -/
def key? : Scalar → Option String
  | .nil => none
  | .bool b => some (if b then "true" else "false")
  | .integer n => some (toString n)
  | .real s => some s
  | .text s => some s

/-- Infinities and what is no number have no value as settings. -/
def toTree? : Scalar → Option Tree
  | .nil => some .nil
  | .bool b => some (.bool b)
  | .integer n => some (.integer n)
  | .real s => (Extended.ofChars? s.toList).map .float
  | .text s => some (.text s)

end Scalar

mutual

def Node.toTree? : Node → Option Tree
  | .scalar value => value.toTree?
  | .list items => (itemTrees? items).map .list
  | .table entries => (entryTrees? [] entries).map .table

def itemTrees? : List Node → Option (List Tree)
  | [] => some []
  | item :: rest => do
    let tree ← item.toTree?
    return tree :: (← itemTrees? rest)

/-- Keys of one name are one entry. -/
def entryTrees? (acc : Tree.Entries) : List (Scalar × Node) → Option Tree.Entries
  | [] => some acc
  | (key, value) :: rest => do
    let name ← key.key?
    let tree ← value.toTree?
    entryTrees? (Tree.put name tree acc) rest

end

end CredentialIssuer.Settings.Yaml
