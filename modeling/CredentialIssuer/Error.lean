/-! What can go wrong while a credential is issued, and how it is told. -/
namespace CredentialIssuer

inductive ErrorCategory where
  | token
  | validation
  | credential
  | infrastructure
  | internal
  deriving DecidableEq, Repr

def ErrorCategory.text : ErrorCategory → String
  | .token => "token"
  | .validation => "validation"
  | .credential => "credential"
  | .infrastructure => "infrastructure"
  | .internal => "internal"

inductive ServiceError where
  | invalidRequest (message : String)
  | missingToken
  | accessDenied (message : String)
  | credentialAssembly (field : String)
  | signing (message : String)
  | keyManagement (message : String)
  | storage (message : String)
  | internal (message : String)
  deriving DecidableEq, Repr

namespace ServiceError

def text : ServiceError → String
  | .invalidRequest message => "Invalid request: " ++ message
  | .missingToken => "Missing access token"
  | .accessDenied message => "Access denied: " ++ message
  | .credentialAssembly field => "Credential assembly failed: missing " ++ field
  | .signing message => "Signing error: " ++ message
  | .keyManagement message => "Key management error: " ++ message
  | .storage message => "Storage error: " ++ message
  | .internal message => "Internal error: " ++ message

def isClientError : ServiceError → Bool
  | .invalidRequest _ | .missingToken | .accessDenied _ => true
  | _ => false

def isServerError (e : ServiceError) : Bool := !e.isClientError

def category : ServiceError → ErrorCategory
  | .invalidRequest _ => .validation
  | .missingToken | .accessDenied _ => .token
  | .credentialAssembly _ | .signing _ => .credential
  | .keyManagement _ | .storage _ => .infrastructure
  | .internal _ => .internal

/-- The code on the wire. -/
def code : ServiceError → String
  | .invalidRequest _ => "invalid_request"
  | .missingToken => "unauthorized"
  | .accessDenied _ => "access_denied"
  | _ => "server_error"

/-- Errors of the client are described by their bare message. -/
def description : ServiceError → String
  | .invalidRequest message | .accessDenied message => message
  | e => e.text

def status : ServiceError → Nat
  | .invalidRequest _ => 400
  | .missingToken => 401
  | .accessDenied _ => 403
  | _ => 500

end ServiceError

end CredentialIssuer
