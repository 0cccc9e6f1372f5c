import CredentialIssuer.Error
import CredentialIssuer.RequestObject.Outcome
import CredentialIssuer.Time.TimeSpan
import CredentialIssuer.Time.Timestamp

/-! What the issuer knows about its clients, and what the claims of a request have to meet. The
redirect target is settled first: as long as it is not trusted there is nowhere to send an error.
The other checks run in a fixed order and the first to fail decides. -/
namespace CredentialIssuer

namespace Saturating

/-- The 64-bit whole number that is nearest. -/
def clamp (n : Int) : Int64 :=
  if n < Int64.minValue.toInt then Int64.minValue
  else if Int64.maxValue.toInt < n then Int64.maxValue
  else Int64.ofInt n

def add (a b : Int64) : Int64 := clamp (a.toInt + b.toInt)
def sub (a b : Int64) : Int64 := clamp (a.toInt - b.toInt)

end Saturating

structure ClientTrust where
  clientId : String
  /-- What the client calls itself in its tokens. -/
  issuer : String
  /-- What the client calls this service. -/
  audience : String
  /-- The document of the public key. -/
  signingKey : String
  redirectUris : List String
  maxTokenTtl : TimeSpan
  deriving DecidableEq, Repr

/-- Redirect targets are compared as texts, not as addresses. -/
def ClientTrust.isRegistered (client : ClientTrust) (redirectUri : String) : Bool :=
  client.redirectUris.contains redirectUri

/-- A store of clients is a function from ids to what is known under them. -/
abbrev ClientStore := String → Except ServiceError (Option ClientTrust)

namespace RequestObject

/-- Where the lifetime of a request begins. -/
inductive TtlPolicy where
  | fromNow
  | fromIssuedAt
  deriving DecidableEq, Repr

/-- What claims are held against. -/
structure Context where
  client : ClientTrust
  now : Int64
  policy : TtlPolicy
  clockSkew : Int64
  deriving Repr

namespace Context

/-- Whole seconds, of which there may be more than the range holds. -/
def wholeSeconds (span : TimeSpan) : Int64 := Saturating.clamp span.seconds

def of (client : ClientTrust) (now : Timestamp) (policy : TtlPolicy) (clockSkew : TimeSpan) :
    Context :=
  ⟨client, Int64.ofInt now.unixSeconds, policy, wholeSeconds clockSkew⟩

def maxTtl (context : Context) : Int64 := wholeSeconds context.client.maxTokenTtl

end Context

/-- The redirect target of claims, if it is an absolute address and registered. -/
def trustedRedirect (claims : Claims) (client : ClientTrust) : Except FatalFailure String :=
  match claims.redirectUri with
  | none => .error .redirectUnreadable
  | some uri =>
    match Url.parse uri with
    | .error _ => .error .redirectUnreadable
    | .ok _ => if client.isRegistered uri then .ok uri else .error .redirectUnregistered

abbrev Check := Claims → Context → Except Rejection Unit

def absent {α : Type} (name : String) : Option α → List String
  | none => [name]
  | some _ => []

/-- In the order of their names. -/
def missingClaims (c : Claims) : List String :=
  absent "exp" c.exp ++ absent "iat" c.iat ++ absent "iss" c.iss ++ absent "nbf" c.nbf
    ++ absent "response_type" c.responseType ++ absent "sub" c.sub

def checkRequired : Check := fun claims _ =>
  match missingClaims claims with
  | [] => .ok ()
  | names => .error (.claimsMissing names)

def checkAudience : Check := fun claims context =>
  match claims.aud with
  | none => .error .audienceMissing
  | some aud =>
    if aud.names context.client.audience then .ok () else .error (.audienceRejected aud.values)

def checkIssuer : Check := fun claims context =>
  let found := claims.iss.getD ""
  if found = context.client.issuer then .ok ()
  else .error (.issuerMismatch found context.client.issuer)

/-- The response type served here. -/
def codeResponse : String := "code"

def checkResponseType : Check := fun claims _ =>
  let found := claims.responseType.getD ""
  if found = codeResponse then .ok () else .error (.responseTypeMismatch found codeResponse)

def lifetime (context : Context) (exp iat : Int64) : Int64 :=
  match context.policy with
  | .fromNow => Saturating.sub exp context.now
  | .fromIssuedAt => Saturating.sub exp iat

def checkTimes : Check := fun claims context =>
  match claims.exp, claims.nbf, claims.iat with
  | some exp, some nbf, some iat =>
    if exp < Saturating.sub context.now context.clockSkew then .error .expired
    else if Saturating.add context.now context.clockSkew < nbf then .error .notYetValid
    else if context.maxTtl < lifetime context exp iat then .error .ttlExceeded
    else .ok ()
  | _, _, _ => .error .timesMissing

/-- The checks in their order. -/
def checks : List (String × Check) :=
  [("required_claims", checkRequired), ("audience", checkAudience), ("issuer", checkIssuer),
    ("response_type", checkResponseType), ("time_bounds", checkTimes)]

def runChecks (claims : Claims) (context : Context) : Except Rejection Unit :=
  checks.forM fun (_, check) => check claims context

def validateClaims (claims : Claims) (context : Context) : Outcome :=
  match trustedRedirect claims context.client with
  | .error failure => .fatal failure
  | .ok redirectUri =>
    match runChecks claims context with
    | .ok () => .valid ⟨context.client.clientId, claims, redirectUri⟩
    | .error rejection => .recoverable ⟨rejection, redirectUri, claims.state⟩

end RequestObject

end CredentialIssuer
