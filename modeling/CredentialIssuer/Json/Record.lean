import CredentialIssuer.Json.Basic

/-! Reading records from JSON. A record is an object of its fields, or an array of them in the
order of declaration. -/
namespace CredentialIssuer.Json

/-- The fields that were given, and whether they were given by position. -/
structure Record where
  positional : Bool
  given : List (String × Json)

/-- Members of other names are skipped; a field given twice is refused. -/
def namedRecord? (names : List String) (members : Members) : Option Record :=
  let known := members.filter fun m => names.contains m.1
  if (known.map (·.1)).Nodup then some ⟨false, known⟩ else none

def record? (names : List String) : Json → Option Record
  | .object members => namedRecord? names members
  | .array items => if items.length ≤ names.length then some ⟨true, names.zip items⟩ else none
  | _ => none

/-- The name of a case without content, alone or as the name of a null member. -/
def asCase? : Json → Option String
  | .string name => some name
  | .object [(name, .null)] => some name
  | _ => none

namespace Record

variable {α : Type}

def field? (r : Record) (name : String) : Option Json := r.given.lookup name

def required (r : Record) (name : String) (decode : Json → Option α) : Option α :=
  (r.field? name).bind decode

/-- Null and any other value of an optional field. -/
def nullable (decode : Json → Option α) : Json → Option (Option α)
  | .null => some none
  | value => (decode value).map some

/-- A field that may be left out of an object, but not of an array. -/
def optional (r : Record) (name : String) (decode : Json → Option α) : Option (Option α) :=
  match r.field? name with
  | some value => nullable decode value
  | none => if r.positional then none else some none

/-- A field that takes a value of its own where it is left out. -/
def withDefault (r : Record) (name : String) (default : α) (decode : Json → Option α) :
    Option α :=
  match r.field? name with
  | some value => decode value
  | none => some default

/-- A field that may be left out anywhere, and may be null. -/
def lenient (r : Record) (name : String) (decode : Json → Option α) : Option (Option α) :=
  r.withDefault name none (nullable decode)

end Record

end CredentialIssuer.Json
