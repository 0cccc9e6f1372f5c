import CredentialIssuer.Redirect
import CredentialIssuer.RequestObject.Claims

/-! How the validation of an authorization request ends. -/
namespace CredentialIssuer.RequestObject

inductive RecoverableReason where
  | missingClaims
  | audienceRejected
  | issuerMismatch
  | responseTypeMismatch
  | expired
  | notYetValid
  | ttlExceeded
  deriving DecidableEq, Repr

/-- Why claims are rejected once their redirect target is trusted. -/
inductive Rejection where
  | claimsMissing (names : List String)
  | timesMissing
  | audienceMissing
  | audienceRejected (values : List String)
  | issuerMismatch (found required : String)
  | responseTypeMismatch (found required : String)
  | expired
  | notYetValid
  | ttlExceeded
  deriving DecidableEq, Repr

namespace Rejection

def reason : Rejection → RecoverableReason
  | .claimsMissing _ | .timesMissing => .missingClaims
  | .audienceMissing | .audienceRejected _ => .audienceRejected
  | .issuerMismatch _ _ => .issuerMismatch
  | .responseTypeMismatch _ _ => .responseTypeMismatch
  | .expired => .expired
  | .notYetValid => .notYetValid
  | .ttlExceeded => .ttlExceeded

private def listed (items : List String) : String := "[" ++ String.intercalate ", " items ++ "]"

def description : Rejection → String
  | .claimsMissing names => "JWT missing required claims: " ++ listed names
  | .timesMissing => "JWT missing required claims"
  | .audienceMissing => "JWT missing required audience"
  | .audienceRejected values => "JWT audience rejected: " ++ listed values
  | .issuerMismatch found required =>
    "JWT iss claim has value " ++ found ++ ", must be " ++ required
  | .responseTypeMismatch found required =>
    "JWT response_type claim has value " ++ found ++ ", must be " ++ required
  | .expired => "Expired JWT"
  | .notYetValid => "JWT before use time"
  | .ttlExceeded => "The client JWT expiry date has surpassed the maximum allowed ttl value"

end Rejection

/-- A failure that the client is told of by redirect. -/
structure RecoverableFailure where
  rejection : Rejection
  redirectUri : String
  state : Option String
  deriving DecidableEq, Repr

namespace RecoverableFailure

def code (_ : RecoverableFailure) : ErrorCode := .invalidGrant

def redirectUrl (f : RecoverableFailure) : Except Url.ParseError String :=
  Redirect.error f.redirectUri f.code (some f.rejection.description) f.state

end RecoverableFailure

structure ValidatedRequest where
  clientId : String
  claims : Claims
  redirectUri : String
  deriving Repr

inductive Outcome where
  | valid (request : ValidatedRequest)
  | recoverable (failure : RecoverableFailure)
  | fatal (failure : FatalFailure)
  deriving Repr

end CredentialIssuer.RequestObject
