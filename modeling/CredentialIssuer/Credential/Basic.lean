import CredentialIssuer.IdentityCheck

/-! Verifiable credentials of passport holders. -/
namespace CredentialIssuer

inductive NameKind where
  | givenName
  | familyName
  deriving DecidableEq, Repr

namespace NameKind

def text : NameKind → String
  | .givenName => "GivenName"
  | .familyName => "FamilyName"

def ofText? (text : String) : Option NameKind :=
  [givenName, familyName].find? fun kind => kind.text == text

end NameKind

/-- One part of a name. Its days of validity stand beside its own members. -/
structure NamePart where
  value : String
  kind : NameKind
  validity : ValidityWindow
  deriving DecidableEq, Repr

namespace NamePart

def own : List String := ["value", "type"]

/-- Members without a meaning are read all the same, at the level where they stand. -/
def ofJson? (level : Nat) (value : Json) : Option NamePart := do
  let members ← value.asMembers?
  let r ← Json.namedRecord? own members
  let rest := members.filter fun m => !own.contains m.1
  let _ ← rest.mapM fun m => m.2.kept? level
  some {
    value := ← r.required "value" Json.asText?
    kind := ← r.required "type" fun v => v.asCase?.bind NameKind.ofText?
    validity := ← ValidityWindow.ofMembers? rest }

def toJson (p : NamePart) : Json :=
  .object (("value", .string p.value) :: ("type", .string p.kind.text) :: p.validity.members)

end NamePart

structure CredentialSubject where
  nameParts : List NamePart
  passportNumber : String
  birthDate : Date
  expiryDate : Date
  requestId : Uuid
  correlationId : Uuid
  dcsResponse : DcsResponse
  deriving DecidableEq, Repr

namespace CredentialSubject

def name? (level : Nat) (value : Json) : Option (List NamePart) := do
  let r ← Json.record? ["nameParts"] value
  r.required "nameParts" fun v => do (← v.asItems?).mapM (NamePart.ofJson? (level + 2))

def subjectNames : List String :=
  ["name", "passportNumber", "birthDate", "expiryDate", "requestId", "correlationId",
    "dcsResponse"]

def ofJson? (level : Nat) (value : Json) : Option CredentialSubject := do
  let r ← Json.record? subjectNames value
  some {
    nameParts := ← r.required "name" (name? (level + 1))
    passportNumber := ← r.required "passportNumber" Json.asText?
    birthDate := ← r.required "birthDate" Json.asDate?
    expiryDate := ← r.required "expiryDate" Json.asDate?
    requestId := ← r.required "requestId" Json.asUuid?
    correlationId := ← r.required "correlationId" Json.asUuid?
    dcsResponse := ← r.required "dcsResponse" DcsResponse.ofJson? }

def toJson (s : CredentialSubject) : Json :=
  .object [("name", .object [("nameParts", .array (s.nameParts.map NamePart.toJson))]),
    ("passportNumber", .string s.passportNumber), ("birthDate", .ofDate s.birthDate),
    ("expiryDate", .ofDate s.expiryDate), ("requestId", .ofUuid s.requestId),
    ("correlationId", .ofUuid s.correlationId), ("dcsResponse", s.dcsResponse.toJson)]

end CredentialSubject

structure Credential where
  resourceId : String
  subject : CredentialSubject
  evidence : Evidence
  deriving DecidableEq, Repr

namespace Credential

/-- The level is that of the credential itself, one for a whole document. -/
def ofJson? (level : Nat) (value : Json) : Option Credential := do
  let r ← Json.record? ["resourceId", "credentialSubject", "evidence"] value
  some {
    resourceId := ← r.required "resourceId" Json.asText?
    subject := ← r.required "credentialSubject" (CredentialSubject.ofJson? (level + 1))
    evidence := ← r.required "evidence" Evidence.ofJson? }

def toJson (c : Credential) : Json :=
  .object [("resourceId", .string c.resourceId), ("credentialSubject", c.subject.toJson),
    ("evidence", c.evidence.toJson)]

end Credential

/-- What a signed credential says: who it is for, and the credential itself. -/
structure CredentialClaims where
  sub : String
  vc : Credential
  deriving DecidableEq, Repr

namespace CredentialClaims

def ofJson? (value : Json) : Option CredentialClaims := do
  let r ← Json.record? ["sub", "vc"] value
  some ⟨← r.required "sub" Json.asText?, ← r.required "vc" (Credential.ofJson? 2)⟩

def toJson (c : CredentialClaims) : Json :=
  .object [("sub", .string c.sub), ("vc", c.vc.toJson)]

end CredentialClaims

end CredentialIssuer
