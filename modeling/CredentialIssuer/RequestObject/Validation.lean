import CredentialIssuer.Jose.Jwt
import CredentialIssuer.RequestObject.Checks
import CredentialIssuer.RequestObject.Decryption

/-! From the text of a request object to the outcome: decryption, signature, claims. -/
namespace CredentialIssuer.RequestObject

/-- A request whose signature is right, and the client it is from. -/
structure VerifiedRequest where
  client : ClientTrust
  payload : Json.Members
  deriving Repr

/-- The one algorithm that requests are signed with. -/
def requiredAlgorithm : Algorithm := .es256

/-- Objects only, whole and sorted. -/
def payloadOf? (value : Json) : Option Json.Members :=
  value.asMembers?.bind fun _ => (value.kept? 0).bind Json.asMembers?

/-- Client, key, algorithm and signature, in this order. -/
def verify (clients : ClientStore) (request : SignedRequest) (clientId : String) :
    Except FatalFailure VerifiedRequest :=
  match clients clientId with
  | .error _ => .error .serverError
  | .ok none => .error .unknownClient
  | .ok (some client) =>
    match VerifyingKey.read client.signingKey with
    | .error _ => .error .keyParseFailure
    | .ok key =>
      if request.header.alg ≠ requiredAlgorithm.name then .error .algorithmMismatch
      else
        match Jwt.verify requiredAlgorithm (Jwt.es256Check? key) payloadOf? request.token with
        | .ok (_, payload) => .ok ⟨client, payload⟩
        | .error .json => .error .redirectUnreadable
        | .error _ => .error .signatureInvalid

/-- What does not change from one request to the next. -/
structure Validator where
  keys : KeyManagement
  clients : ClientStore
  policy : TtlPolicy
  clockSkew : TimeSpan

namespace Validator

def verifiedClaims (v : Validator) (compact clientId : String) :
    Except FatalFailure (ClientTrust × Claims) := do
  let signed ← decrypt v.keys compact
  let verified ← verify v.clients signed clientId
  let claims ← Claims.ofPayload verified.payload
  return (verified.client, claims)

def validateAt (v : Validator) (compact clientId : String) (now : Timestamp) : Outcome :=
  match v.verifiedClaims compact clientId with
  | .error failure => .fatal failure
  | .ok (client, claims) => validateClaims claims (.of client now v.policy v.clockSkew)

end Validator

end CredentialIssuer.RequestObject
