import CredentialIssuer.Credential.Basic
import CredentialIssuer.Jose.Jwt

/-! Signing credentials and checking the signatures. -/
namespace CredentialIssuer

structure CredentialSigner where
  key : Rsa.PrivateKey
  /-- The id of the key, named in every header. -/
  kid : Option String
  deriving Repr

namespace CredentialSigner

def algorithm : Algorithm := .rs256

def ofPem (pem : String) (kid : Option String) : Except TokenError CredentialSigner :=
  match Rsa.PrivateKey.ofPem? pem with
  | some key => .ok ⟨key, kid⟩
  | none => .error (.invalidKey "not an RSA private key")

def header (s : CredentialSigner) : Json :=
  .object (("typ", .string "JWT") :: ("alg", .string algorithm.name)
    :: Json.member? "kid" .string s.kid)

def sign (s : CredentialSigner) (claims : Json) : String :=
  Jwt.sign (RsaSignature.sign s.key) s.header claims

/-- Nothing but the signature is checked: credentials do not expire. -/
def verify {α : Type} (s : CredentialSigner) (decode : Json → Option α) (token : String) :
    Except TokenError (Jwt.Header × α) :=
  match Jwt.verify algorithm (.ok (Jwt.rs256Check s.key.toPublicKey)) decode token with
  | .ok result => .ok result
  | .error fault => .error (.ofFault fault)

def signCredential (s : CredentialSigner) (claims : CredentialClaims) : String :=
  s.sign claims.toJson

def verifyCredential (s : CredentialSigner) (token : String) :
    Except TokenError (Jwt.Header × CredentialClaims) :=
  s.verify CredentialClaims.ofJson? token

end CredentialSigner

end CredentialIssuer
