import CredentialIssuer.Settings.Tree

/-! Where a setting lies in a tree: names with dots between them, and numbers in brackets for
places in lists. -/
namespace CredentialIssuer.Settings

inductive Step where
  | key (name : String)
  /-- Counted from the end if negative. -/
  | place (index : Int)
  deriving DecidableEq, Repr

structure Path where
  root : String
  steps : List Step
  deriving DecidableEq, Repr

namespace Path

private def isNameChar (c : Char) : Bool := c.isAlphanum || c == '-' || c == '_'

private def index? (cs : List Char) : Option Int :=
  match cs with
  | '-' :: digits => (Text.natural? digits).map fun n => -(n : Int)
  | digits => (Text.natural? digits).map fun n => (n : Int)

private def name? (cs : List Char) : Option (String × List Char) :=
  let name := cs.takeWhile isNameChar
  if name.isEmpty then none else some (String.ofList name, cs.dropWhile isNameChar)

private def steps? : (fuel : Nat) → List Char → Option (List Step)
  | _, [] => some []
  | fuel + 1, '.' :: rest => do
    let (name, rest) ← name? rest
    return .key name :: (← steps? fuel rest)
  | fuel + 1, '[' :: rest => do
    let index ← index? (rest.takeWhile (· ≠ ']'))
    let ']' :: rest := rest.dropWhile (· ≠ ']') | none
    return .place index :: (← steps? fuel rest)
  | _, _ => none

private def read? (text : String) : Option Path := do
  let (root, rest) ← name? text.toList
  return ⟨root, ← steps? rest.length rest⟩

/-- A text that is no path names an entry as a whole. -/
def ofText (text : String) : Path := (read? text).getD ⟨text, []⟩

def entriesOf : Tree → Tree.Entries
  | .table entries => entries
  | _ => []

private def itemsOf : Tree → List Tree
  | .list items => items
  | _ => []

private def filled (items : List Tree) (n : Nat) : List Tree :=
  items ++ List.replicate (n - items.length) .nil

/-- Changes one item of a list, which grows at the end it is too short at. -/
private def changeItem (index : Int) (change : Tree → Tree) (items : List Tree) : List Tree :=
  let place := if index < 0 then items.length + index else index
  if place < 0 then
    change .nil :: (List.replicate (place.natAbs - 1) .nil ++ items)
  else (filled items (place.toNat + 1)).modify place.toNat change

def changeEntry (name : String) (change : Tree → Tree) : Tree.Entries → Tree.Entries
  | [] => [(name, change .nil)]
  | (n, v) :: rest =>
    if n = name then (n, change v) :: rest else (n, v) :: changeEntry name change rest

def changeAt : List Step → (Tree → Tree) → Tree → Tree
  | [], change, value => change value
  | .key name :: steps, change, value =>
    .table (changeEntry name (changeAt steps change) (entriesOf value))
  | .place index :: steps, change, value =>
    .list (changeItem index (changeAt steps change) (itemsOf value))

def laidOver (value old : Tree) : Tree :=
  match value with
  | .table inner => .table (Tree.overlayAll inner (entriesOf old))
  | other => other

/-- Lays a value over what is at the path, making the tables and lists on the way. -/
def set (path : Path) (value : Tree) (entries : Tree.Entries) : Tree.Entries :=
  changeEntry path.root (changeAt path.steps (laidOver value)) entries

end Path

end CredentialIssuer.Settings
