import CredentialIssuer.Credential.Basic

/-! Building a credential from a stored identity check, which has to be complete. -/
namespace CredentialIssuer.IdentityCheck

def requiredPart {α : Type} (field : String) : Option α → Except ServiceError α
  | some value => .ok value
  | none => .error (.credentialAssembly field)

/-- An empty list of forenames counts as missing. -/
def someForenames (forenames : Option (List String)) :
    Except ServiceError (List String) := do
  match ← requiredPart "attributes.forenames" forenames with
  | [] => .error (.credentialAssembly "attributes.forenames")
  | names => .ok names

/-- Forenames come first, and all parts share the window of the record. -/
def nameParts (forenames : List String) (surname : String) (validity : ValidityWindow) :
    List NamePart :=
  forenames.map (⟨·, .givenName, validity⟩) ++ [⟨surname, .familyName, validity⟩]

/-- The first part that is missing, in a fixed order, is the one complained about. -/
def assemble (check : IdentityCheck) : Except ServiceError Credential := do
  let a ← requiredPart "attributes" check.attributes
  let evidence ← requiredPart "gpg45Score" check.score
  let forenames ← someForenames a.forenames
  let surname ← requiredPart "attributes.surname" a.surname
  let subject : CredentialSubject := {
    nameParts := nameParts forenames surname (a.nameValidity.getD .openEnded)
    passportNumber := ← requiredPart "attributes.passportNumber" a.passportNumber
    birthDate := ← requiredPart "attributes.dateOfBirth" a.dateOfBirth
    expiryDate := ← requiredPart "attributes.expiryDate" a.expiryDate
    requestId := ← requiredPart "attributes.requestId" a.requestId
    correlationId := ← requiredPart "attributes.correlationId" a.correlationId
    dcsResponse := ← requiredPart "attributes.dcsResponse" a.dcsResponse }
  return ⟨check.resourceId, subject, evidence⟩

end CredentialIssuer.IdentityCheck
