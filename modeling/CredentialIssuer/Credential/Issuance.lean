import CredentialIssuer.AccessToken
import CredentialIssuer.Audit
import CredentialIssuer.Credential.Assembly
import CredentialIssuer.Credential.Signer

/-! Issuing a credential for a request token and an access token. -/
namespace CredentialIssuer

/-- The last member of the name is the subject, if it is a text and not an empty one. -/
def payloadSubject? (payload : List Char) : Option String := do
  if payload.isEmpty then none
  let value ← Json.readBytes? (← Base64Url.decode? (String.ofList payload))
  let members ← (← value.kept? 0).asMembers?
  let subject ← (← Json.Members.get? members "sub").asText?
  if subject.isEmpty then none else some subject

/-- The subject that a request token names. Its signature is not looked at. -/
def requestSubject? (requestJwt : String) : Option String :=
  match Text.segments '.' (Text.trim requestJwt.toList) with
  | _ :: payload :: _ => payloadSubject? payload
  | _ => none

def requestSubject (requestJwt : String) : Except ServiceError String :=
  match requestSubject? requestJwt with
  | some subject => .ok subject
  | none => .error (.invalidRequest "Invalid request Subject is missing from Request JWT")

structure IssuedCredential where
  resourceId : String
  jwt : String
  deriving DecidableEq, Repr

/-- A result, the session that became known on the way, and the events that were sent. -/
structure Issuance where
  result : Except ServiceError IssuedCredential
  session : Option String
  events : List Audit.EventName

/-- What an issuance relies on. Stores and signatures may fail. -/
structure Collaborators where
  tokens : AccessToken.Store
  checks : IdentityCheck.Store
  sign : CredentialClaims → Except TokenError String

namespace Collaborators

def checkOf (c : Collaborators) (resourceId : String) : Except ServiceError IdentityCheck :=
  match c.checks resourceId with
  | .error e => .error e
  | .ok none => .error (.storage ("No identity check record for resource " ++ resourceId))
  | .ok (some check) => .ok check

/-- The signed credential of a subject for a resource. -/
def signedFor (c : Collaborators) (subject resourceId : String) :
    Except ServiceError IssuedCredential := do
  let check ← c.checkOf resourceId
  let vc ← check.assemble
  match c.sign ⟨subject, vc⟩ with
  | .ok jwt => return ⟨resourceId, jwt⟩
  | .error e => .error e.toServiceError

/-- Subject, access token, record, assembly and signature, in this order. -/
def issue (c : Collaborators) (requestJwt : String) (authorization : Option String) :
    Issuance :=
  match requestSubject requestJwt with
  | .error e => ⟨.error e, none, []⟩
  | .ok subject =>
    match (AccessToken.resolve c.tokens authorization).result with
    | .error e => ⟨.error e, none, []⟩
    | .ok resourceId =>
      match c.signedFor subject resourceId with
      | .error e => ⟨.error e, some resourceId, []⟩
      | .ok issued => ⟨.ok issued, some resourceId, [.credentialIssued]⟩

end Collaborators

structure CredentialService where
  tokens : AccessToken.Store
  checks : IdentityCheck.Store
  signer : CredentialSigner

namespace CredentialService

/-- A key that was read from its document signs whatever it is given. -/
def collaborators (s : CredentialService) : Collaborators :=
  ⟨s.tokens, s.checks, fun claims => .ok (s.signer.signCredential claims)⟩

def issue (s : CredentialService) (requestJwt : String) (authorization : Option String) :
    Issuance :=
  s.collaborators.issue requestJwt authorization

end CredentialService

end CredentialIssuer
