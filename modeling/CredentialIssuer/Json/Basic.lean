import CredentialIssuer.Number.Binary64
import CredentialIssuer.Text.Digits

/-! JSON values, the objects among them as lists of members in the order written. -/
namespace CredentialIssuer

/-- Whole numbers of 64 bits stay exact, all others are binary64. -/
inductive Json.Number where
  | integer (value : Int)
  | binary64 (value : Binary64)
  deriving DecidableEq, Repr

/-- An `unreadable` piece is well formed but has no value: a string whose bytes are no text, a
number beyond the range, an object with such a name. It may only stand where it is not looked at. -/
inductive Json where
  | null
  | bool (value : Bool)
  | number (value : Json.Number)
  | string (value : String)
  | array (items : List Json)
  | object (members : List (String × Json))
  | unreadable
  deriving Repr, Inhabited

namespace Json

abbrev Members := List (String × Json)

def ofInt (n : Int) : Json := .number (.integer n)
def ofNat (n : Nat) : Json := .number (.integer n)

def ofTexts (texts : List String) : Json := .array (texts.map .string)

def isNull : Json → Bool
  | .null => true
  | _ => false

/-- An absent text is null. -/
def ofText? : Option String → Json
  | none => .null
  | some text => .string text

/-- What is absent is left out. -/
def member? {α : Type} (name : String) (encode : α → Json) : Option α → Members
  | some value => [(name, encode value)]
  | none => []

/-- The value of the last member of a name. -/
def Members.get? (members : Members) (name : String) : Option Json :=
  members.foldl (fun found m => if m.1 = name then some m.2 else found) none

/-- Puts a member in its place by name, unless the name is there already. -/
def Members.insertNew (name : String) (value : Json) : Members → Members
  | [] => [(name, value)]
  | (n, v) :: rest =>
    if name < n then (name, value) :: (n, v) :: rest
    else if name = n then (n, v) :: rest
    else (n, v) :: insertNew name value rest

mutual

/-- Members sorted by name at every level, the last of equal names kept. -/
def sorted : Json → Json
  | .array items => .array (sortedItems items)
  | .object members => .object (sortedMembers members)
  | .null => .null
  | .bool b => .bool b
  | .number n => .number n
  | .string s => .string s
  | .unreadable => .unreadable

def sortedItems : List Json → List Json
  | [] => []
  | item :: rest => sorted item :: sortedItems rest

def sortedMembers : List (String × Json) → List (String × Json)
  | [] => []
  | (name, value) :: rest => Members.insertNew name (sorted value) (sortedMembers rest)

end

mutual

/-- Whether every piece has a value and arrays and objects nest at most `levels` deep. -/
def isKeepable (levels : Nat) : Json → Bool
  | .array items => match levels with
    | 0 => false
    | levels + 1 => itemsKeepable levels items
  | .object members => match levels with
    | 0 => false
    | levels + 1 => membersKeepable levels members
  | .unreadable => false
  | .null => true
  | .bool _ => true
  | .number _ => true
  | .string _ => true

def itemsKeepable (levels : Nat) : List Json → Bool
  | [] => true
  | item :: rest => isKeepable levels item && itemsKeepable levels rest

def membersKeepable (levels : Nat) : List (String × Json) → Bool
  | [] => true
  | (_, value) :: rest => isKeepable levels value && membersKeepable levels rest

end

/-- The deepest nesting of a value that is kept whole. -/
def maxLevels : Nat := 127

/-- The value as it is kept when a document holds it at the given level. -/
def kept? (level : Nat) (value : Json) : Option Json :=
  if value.isKeepable (maxLevels - level) then some value.sorted else none

def asText? : Json → Option String
  | .string s => some s
  | _ => none

def asBool? : Json → Option Bool
  | .bool b => some b
  | _ => none

def asItems? : Json → Option (List Json)
  | .array items => some items
  | _ => none

def asMembers? : Json → Option Members
  | .object members => some members
  | _ => none

/-- A whole number within bounds; fractions and exponents are no whole numbers. -/
def asInt? (low high : Int) : Json → Option Int
  | .number (.integer n) => if low ≤ n ∧ n ≤ high then some n else none
  | _ => none

def minInt64 : Int := -2 ^ 63
def maxInt64 : Int := 2 ^ 63 - 1
def maxUInt64 : Int := 2 ^ 64 - 1

def asInt64? (value : Json) : Option Int := value.asInt? minInt64 maxInt64

def asTexts? (value : Json) : Option (List String) := value.asItems?.bind (·.mapM asText?)

end Json

end CredentialIssuer
