import CredentialIssuer.Error
import CredentialIssuer.Json.Basic
import CredentialIssuer.Json.Record
import CredentialIssuer.Time.Date
import CredentialIssuer.Uuid

/-! Stored identity checks. Every part that comes from outside may be missing. -/
namespace CredentialIssuer

namespace Json

def asDate? (value : Json) : Option Date := value.asText?.bind Date.read?

def asUuid? (value : Json) : Option Uuid := value.asText?.bind Uuid.read?

def ofDate (date : Date) : Json := .string date.print

def ofUuid (id : Uuid) : Json := .string id.print

/-- What is absent is null. -/
def orNull {α : Type} (encode : α → Json) : Option α → Json
  | some value => encode value
  | none => .null

end Json

/-- The answer of the document checking service. -/
structure DcsResponse where
  correlationId : Uuid
  requestId : Uuid
  error : Bool
  valid : Bool
  errorMessage : Option (List String)
  deriving DecidableEq, Repr

namespace DcsResponse

def ofJson? (value : Json) : Option DcsResponse := do
  let r ← Json.record? ["correlationId", "requestId", "error", "valid", "errorMessage"] value
  some {
    correlationId := ← r.required "correlationId" Json.asUuid?
    requestId := ← r.required "requestId" Json.asUuid?
    error := ← r.required "error" Json.asBool?
    valid := ← r.required "valid" Json.asBool?
    errorMessage := ← r.lenient "errorMessage" Json.asTexts? }

def toJson (d : DcsResponse) : Json :=
  .object ([("correlationId", .ofUuid d.correlationId), ("requestId", .ofUuid d.requestId),
    ("error", .bool d.error), ("valid", .bool d.valid)]
    ++ Json.member? "errorMessage" Json.ofTexts d.errorMessage)

end DcsResponse

/-- The days between which something holds, open where a day is missing. -/
structure ValidityWindow where
  validFrom : Option Date
  validUntil : Option Date
  deriving DecidableEq, Repr

namespace ValidityWindow

def openEnded : ValidityWindow := ⟨none, none⟩

def names : List String := ["validFrom", "validUntil"]

def ofJson? (value : Json) : Option ValidityWindow := do
  let r ← Json.record? names value
  some {
    validFrom := ← r.lenient "validFrom" Json.asDate?
    validUntil := ← r.lenient "validUntil" Json.asDate? }

/-- The window among other members, where a day may be missing but not null. -/
def ofMembers? (members : Json.Members) : Option ValidityWindow := do
  let r ← Json.namedRecord? names members
  let day (value : Json) := value.asDate?.map some
  some {
    validFrom := ← r.withDefault "validFrom" none day
    validUntil := ← r.withDefault "validUntil" none day }

def members (w : ValidityWindow) : Json.Members :=
  Json.member? "validFrom" Json.ofDate w.validFrom
    ++ Json.member? "validUntil" Json.ofDate w.validUntil

end ValidityWindow

/-- The scores of a check, below 256 each. -/
structure Evidence where
  strength : UInt8
  validity : UInt8
  deriving DecidableEq, Repr

namespace Evidence

def score? (value : Json) : Option UInt8 :=
  (value.asInt? 0 255).map fun n => UInt8.ofNat n.toNat

def inner? (value : Json) : Option Evidence := do
  let r ← Json.record? ["strength", "validity"] value
  some ⟨← r.required "strength" score?, ← r.required "validity" score?⟩

def ofJson? (value : Json) : Option Evidence := do
  let r ← Json.record? ["gpg45Evidence"] value
  r.required "gpg45Evidence" inner?

def toJson (e : Evidence) : Json :=
  .object [("gpg45Evidence",
    .object [("strength", .ofNat e.strength.toNat), ("validity", .ofNat e.validity.toNat)])]

end Evidence

structure PassportAttributes where
  passportNumber : Option String
  surname : Option String
  forenames : Option (List String)
  dateOfBirth : Option Date
  expiryDate : Option Date
  requestId : Option Uuid
  correlationId : Option Uuid
  dcsResponse : Option DcsResponse
  nameValidity : Option ValidityWindow
  deriving DecidableEq, Repr

namespace PassportAttributes

def names : List String :=
  ["passportNumber", "surname", "forenames", "dateOfBirth", "expiryDate", "requestId",
    "correlationId", "dcsResponse", "nameValidity"]

def ofJson? (value : Json) : Option PassportAttributes := do
  let r ← Json.record? names value
  some {
    passportNumber := ← r.lenient "passportNumber" Json.asText?
    surname := ← r.lenient "surname" Json.asText?
    forenames := ← r.lenient "forenames" Json.asTexts?
    dateOfBirth := ← r.lenient "dateOfBirth" Json.asDate?
    expiryDate := ← r.lenient "expiryDate" Json.asDate?
    requestId := ← r.lenient "requestId" Json.asUuid?
    correlationId := ← r.lenient "correlationId" Json.asUuid?
    dcsResponse := ← r.lenient "dcsResponse" DcsResponse.ofJson?
    nameValidity := ← r.lenient "nameValidity" ValidityWindow.ofJson? }

def toJson (a : PassportAttributes) : Json :=
  .object [("passportNumber", .orNull .string a.passportNumber),
    ("surname", .orNull .string a.surname),
    ("forenames", .orNull .ofTexts a.forenames),
    ("dateOfBirth", .orNull .ofDate a.dateOfBirth),
    ("expiryDate", .orNull .ofDate a.expiryDate),
    ("requestId", .orNull .ofUuid a.requestId),
    ("correlationId", .orNull .ofUuid a.correlationId),
    ("dcsResponse", .orNull DcsResponse.toJson a.dcsResponse),
    ("nameValidity", .orNull (fun w => .object w.members) a.nameValidity)]

end PassportAttributes

structure IdentityCheck where
  resourceId : String
  attributes : Option PassportAttributes
  score : Option Evidence
  deriving DecidableEq, Repr

namespace IdentityCheck

def ofJson? (value : Json) : Option IdentityCheck := do
  let r ← Json.record? ["resourceId", "attributes", "gpg45Score"] value
  some {
    resourceId := ← r.required "resourceId" Json.asText?
    attributes := ← r.lenient "attributes" PassportAttributes.ofJson?
    score := ← r.lenient "gpg45Score" Evidence.ofJson? }

def toJson (c : IdentityCheck) : Json :=
  .object [("resourceId", .string c.resourceId),
    ("attributes", .orNull PassportAttributes.toJson c.attributes),
    ("gpg45Score", .orNull Evidence.toJson c.score)]

/-- A store of checks is a function from resources to what was found out about them. -/
abbrev Store := String → Except ServiceError (Option IdentityCheck)

end IdentityCheck

end CredentialIssuer
