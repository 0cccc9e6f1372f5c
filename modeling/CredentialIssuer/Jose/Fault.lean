import CredentialIssuer.Error

/-! Why a signed token is refused, and the errors of signing and verifying. -/
namespace CredentialIssuer

inductive TokenFault where
  | invalidToken
  | invalidSignature
  | invalidEcdsaKey
  | invalidRsaKey (message : String)
  | rsaFailedSigning
  | invalidAlgorithmName
  | invalidKeyFormat
  | missingAlgorithm
  | missingRequiredClaim (claim : String)
  | expiredSignature
  | immatureSignature
  | invalidIssuer
  | invalidAudience
  | invalidSubject
  | invalidAlgorithm
  | base64
  | json
  | utf8
  deriving DecidableEq, Repr

def TokenFault.text : TokenFault → String
  | .invalidToken => "InvalidToken"
  | .invalidSignature => "InvalidSignature"
  | .invalidEcdsaKey => "InvalidEcdsaKey"
  | .invalidRsaKey message => "RSA key invalid: " ++ message
  | .rsaFailedSigning => "RsaFailedSigning"
  | .invalidAlgorithmName => "InvalidAlgorithmName"
  | .invalidKeyFormat => "InvalidKeyFormat"
  | .missingAlgorithm => "MissingAlgorithm"
  | .missingRequiredClaim claim => "Missing required claim: " ++ claim
  | .expiredSignature => "ExpiredSignature"
  | .immatureSignature => "ImmatureSignature"
  | .invalidIssuer => "InvalidIssuer"
  | .invalidAudience => "InvalidAudience"
  | .invalidSubject => "InvalidSubject"
  | .invalidAlgorithm => "InvalidAlgorithm"
  | .base64 => "Base64 error"
  | .json => "JSON error"
  | .utf8 => "UTF-8 error"

inductive TokenError where
  | encoding (message : String)
  | decoding (message : String)
  | invalidSignature
  | keyGeneration (message : String)
  | invalidKey (message : String)
  deriving DecidableEq, Repr

namespace TokenError

def text : TokenError → String
  | .encoding message => "Failed to encode token: " ++ message
  | .decoding message => "Failed to decode token: " ++ message
  | .invalidSignature => "Invalid signature"
  | .keyGeneration message => "Key generation error: " ++ message
  | .invalidKey message => "Invalid key: " ++ message

def isKeyError : TokenError → Bool
  | .keyGeneration _ | .invalidKey _ => true
  | _ => false

def ofFault : TokenFault → TokenError
  | .invalidSignature => .invalidSignature
  | .invalidEcdsaKey => .invalidKey TokenFault.invalidEcdsaKey.text
  | .invalidKeyFormat => .invalidKey TokenFault.invalidKeyFormat.text
  | .invalidRsaKey message => .invalidKey (TokenFault.invalidRsaKey message).text
  | fault => .decoding fault.text

/-- Errors of keys are told apart from all others. -/
def toServiceError (e : TokenError) : ServiceError :=
  if e.isKeyError then .keyManagement e.text else .signing e.text

end TokenError

end CredentialIssuer
