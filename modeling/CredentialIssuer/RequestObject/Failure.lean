/-! Failures that are reported to the caller directly, before a redirect target is trusted. -/
namespace CredentialIssuer.RequestObject

inductive ErrorCode where
  | invalidRequestObject
  | invalidClient
  | invalidGrant
  | serverError
  deriving DecidableEq, Repr

/-- The code on the wire. -/
def ErrorCode.text : ErrorCode → String
  | .invalidRequestObject => "invalid_request_object"
  | .invalidClient => "invalid_client"
  | .invalidGrant => "invalid_grant"
  | .serverError => "server_error"

def ErrorCode.status : ErrorCode → Nat
  | .invalidRequestObject | .invalidGrant => 400
  | .invalidClient => 401
  | .serverError => 500

inductive FatalReason where
  /-- No signed token comes out of the request object. -/
  | decryptionFailed
  | invalidClient
  /-- The registered key of the client cannot be read. -/
  | keyParseFailure
  | algorithmMismatch
  | signatureInvalid
  /-- The claims or their redirect target cannot be read. -/
  | requestObjectInvalid
  /-- The redirect target is not registered. -/
  | invalidGrant
  | serverError
  deriving DecidableEq, Repr

def FatalReason.code : FatalReason → ErrorCode
  | .decryptionFailed | .keyParseFailure | .algorithmMismatch | .signatureInvalid
  | .requestObjectInvalid => .invalidRequestObject
  | .invalidClient => .invalidClient
  | .invalidGrant => .invalidGrant
  | .serverError => .serverError

structure FatalFailure where
  reason : FatalReason
  description : String
  deriving DecidableEq, Repr

namespace FatalFailure

def decryptionFailed : FatalFailure := ⟨.decryptionFailed, "Failed to decrypt the request object"⟩

def unknownClient : FatalFailure := ⟨.invalidClient, "Unknown client id was provided"⟩

def keyParseFailure : FatalFailure :=
  ⟨.keyParseFailure, "Failed to parse JWT when attempting signature validation"⟩

def algorithmMismatch : FatalFailure :=
  ⟨.algorithmMismatch, "Signing algorithm used does not match required algorithm"⟩

def signatureInvalid : FatalFailure := ⟨.signatureInvalid, "JWT signature validation failed"⟩

def redirectUnreadable : FatalFailure :=
  ⟨.requestObjectInvalid, "Failed to parse JWT claim set in order to access redirect_uri claim"⟩

def redirectUnregistered : FatalFailure :=
  ⟨.invalidGrant, "Invalid redirect_uri claim provided for configured client"⟩

def serverError : FatalFailure := ⟨.serverError, "The request object could not be validated"⟩

def code (f : FatalFailure) : ErrorCode := f.reason.code

def text (f : FatalFailure) : String := f.code.text ++ ": " ++ f.description

end FatalFailure

end CredentialIssuer.RequestObject
