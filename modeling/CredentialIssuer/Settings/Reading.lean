import CredentialIssuer.Json.Record

/-! How settings are read, whatever they are written in. -/
namespace CredentialIssuer.Settings

/-- The questions that settings put to a value. -/
structure Reading (V : Type) where
  text? : V → Option String
  port? : V → Option UInt16
  isAbsent : V → Bool
  items? : V → Option (List V)
  entries? : V → Option (List (String × V))
  /-- The fields of a record that are given. -/
  fields? : List String → V → Option (List (String × V))
  /-- The name of a case without content. -/
  case? : V → Option String

namespace Reading

variable {V α : Type}

/-- A field, or what stands for it where it is left out. -/
def field (given : List (String × V)) (name : String) (default : α) (decode : V → Option α) :
    Option α :=
  match given.lookup name with
  | some value => decode value
  | none => some default

def optional (R : Reading V) (decode : V → Option α) (value : V) : Option (Option α) :=
  if R.isAbsent value then some none else (decode value).map some

def texts? (R : Reading V) (value : V) : Option (List String) :=
  (R.items? value).bind (·.mapM R.text?)

end Reading

private def jsonPort? (value : Json) : Option UInt16 :=
  (value.asInt? 0 65535).map fun n => UInt16.ofNat n.toNat

/-- JSON is taken as it is: numbers are no texts. -/
def jsonReading : Reading Json where
  text? := Json.asText?
  port? := jsonPort?
  isAbsent := Json.isNull
  items? := Json.asItems?
  entries? := Json.asMembers?
  fields? := fun names value => (Json.record? names value).map (·.given)
  case? := Json.asCase?

end CredentialIssuer.Settings
