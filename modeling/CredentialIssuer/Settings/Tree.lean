import CredentialIssuer.Keyed
import CredentialIssuer.Number.Extended
import CredentialIssuer.Settings.Reading

/-! Settings as they come from files and from the environment: a tree of tables that sources are
laid over one another in. Where a text or a number is wanted, scalars are turned into one. -/
namespace CredentialIssuer.Settings

inductive Tree where
  | nil
  | bool (value : Bool)
  | integer (value : Int)
  | float (value : Extended)
  | text (value : String)
  | list (items : List Tree)
  | table (entries : List (String × Tree))
  deriving Repr, Inhabited

namespace Tree

abbrev Entries := List (String × Tree)

/-- Whole numbers have 64 bits. -/
def ofInt? (n : Int) : Option Tree :=
  if Json.minInt64 ≤ n ∧ n ≤ Json.maxInt64 then some (.integer n) else none

def boolText (b : Bool) : String := if b then "true" else "false"

/-- Every scalar has a text. -/
def asText? : Tree → Option String
  | .text s => some s
  | .bool b => some (boolText b)
  | .integer n => some (toString n)
  | .float x => some x.plainText
  | _ => none

private def switch? (word : String) : Option Nat :=
  if ["true", "on", "yes"].contains word then some 1
  else if ["false", "off", "no"].contains word then some 0
  else none

private def unsigned? : List Char → Option Nat
  | '+' :: digits => Text.natural? digits
  | digits => Text.natural? digits

private def asNat? : Tree → Option Nat
  | .integer n => if 0 ≤ n then some n.toNat else none
  | .float x => some x.roundToNat
  | .bool b => some (if b then 1 else 0)
  | .text s => (switch? s.toLower).or (unsigned? s.toList)
  | _ => none

private def asPort? (value : Tree) : Option UInt16 :=
  value.asNat?.bind fun n => if n < 65536 then some (UInt16.ofNat n) else none

def isNil : Tree → Bool
  | .nil => true
  | _ => false

private def asItems? : Tree → Option (List Tree)
  | .list items => some items
  | _ => none

private def asEntries? : Tree → Option Entries
  | .table entries => some entries
  | _ => none

def given? (names : List String) : Tree → Option Entries
  | .table entries => some entries
  | .list items => some (names.zip items)
  | _ => none

private def asCase? : Tree → Option String
  | .text name => some name
  | .table [(name, _)] => some name
  | _ => none

/-- Numbers and switches pass for texts, and the other way round. -/
def reading : Reading Tree where
  text? := asText?
  port? := asPort?
  isAbsent := isNil
  items? := asItems?
  entries? := asEntries?
  fields? := given?
  case? := asCase?

/-- The value of the last entry under a key. -/
private def get? (key : String) (entries : Entries) : Option Tree := entries.lookup key

/-- Puts a value in the place of what is at a key, or at the end. -/
def put (key : String) (value : Tree) : Entries → Entries
  | [] => [(key, value)]
  | (k, v) :: rest => if k = key then (k, value) :: rest else (k, v) :: put key value rest

/-- What lies at a key, as a table. -/
private def entriesAt (key : String) (entries : Entries) : Entries :=
  match get? key entries with
  | some (.table inner) => inner
  | _ => []

mutual

/-- Lays a value over what is at a key: tables are merged, all else is replaced. -/
def overlay (key : String) (value : Tree) (entries : Entries) : Entries :=
  match value with
  | .table inner => put key (.table (overlayAll inner (entriesAt key entries))) entries
  | .nil => put key .nil entries
  | .bool b => put key (.bool b) entries
  | .integer n => put key (.integer n) entries
  | .float x => put key (.float x) entries
  | .text s => put key (.text s) entries
  | .list items => put key (.list items) entries

def overlayAll : Entries → Entries → Entries
  | [], entries => entries
  | (key, value) :: rest, entries => overlayAll rest (overlay key value entries)

end

end Tree

end CredentialIssuer.Settings
