import CredentialIssuer.Audit
import CredentialIssuer.AuthorizationCode
import CredentialIssuer.Http.ErrorResponse
import CredentialIssuer.LogContext
import CredentialIssuer.RequestObject.Validation
import CredentialIssuer.Text.Percent

/-! The endpoint that takes an encrypted authorization request and hands out a code. -/
namespace CredentialIssuer.Http

/-- A response with all that happened besides: fields that were logged, an item that was stored,
and events that were sent. -/
structure Answer where
  response : Response
  span : LogContext.Span
  stored : Option AuthorizationCode.Item
  events : List Audit.EventName
  deriving Repr

def Answer.plain (response : Response) : Answer := ⟨response, .none, none, []⟩

/-- What is drawn at random for one request. -/
structure Draw where
  code : String
  resourceId : String
  deriving Repr

structure AuthorizationEndpoint where
  validator : RequestObject.Validator
  /-- Keeps an item or tells why not. -/
  keep : AuthorizationCode.Item → Except ServiceError Unit

namespace AuthorizationEndpoint

structure Parameters where
  clientId : Option String
  request : Option String
  deriving Repr

def repeated (name : String) : Response :=
  .plain 400 ("Failed to deserialize query string: duplicate field `" ++ name ++ "`")

def take (p : Parameters) (pair : String × String) : Except Response Parameters :=
  if pair.1 = "client_id" then
    match p.clientId with
    | some _ => .error (repeated pair.1)
    | none => .ok { p with clientId := some pair.2 }
  else if pair.1 = "request" then
    match p.request with
    | some _ => .error (repeated pair.1)
    | none => .ok { p with request := some pair.2 }
  else .ok p

/-- Other parameters are skipped; one of these twice is refused. -/
def Parameters.ofQuery (query : List Char) : Except Response Parameters :=
  (Form.decode (Utf8.encode (String.ofList query))).foldlM take ⟨none, none⟩

def missingParameters : ServiceError :=
  .invalidRequest "Missing required query parameters: client_id, request"

/-- A code for a request that was found valid. It is kept before it is delivered. -/
def deliver (e : AuthorizationEndpoint) (draw : Draw) (now : Timestamp)
    (span : LogContext.Span) (valid : RequestObject.ValidatedRequest) : Answer :=
  let span := span.attachSession draw.resourceId
  let item := AuthorizationCode.Store.itemFor draw.code draw.resourceId valid.redirectUri now
  match e.keep item with
  | .error error => ⟨ofServiceError error, span, none, []⟩
  | .ok () =>
    let response := match Redirect.success valid.redirectUri draw.code valid.claims.state with
      | .ok location => .found location
      | .error error => ofServiceError (.internal ("Invalid redirect URI: " ++ error.message))
    ⟨response, span, some item, [.authorizationRequested]⟩

def recover (failure : RequestObject.RecoverableFailure) : Response :=
  match failure.redirectUrl with
  | .ok location => .found location
  | .error error => ofServiceError (.internal ("Invalid redirect URI: " ++ error.message))

/-- The answer to a request whose parameters are there. -/
def authorize (e : AuthorizationEndpoint) (draw : Draw) (now : Timestamp)
    (clientId request : String) : Answer :=
  let span := (LogContext.empty.withClientId clientId).span "authorize"
  match e.validator.validateAt request clientId now with
  | .valid valid => e.deliver draw now span valid
  | .recoverable failure => ⟨recover failure, span, none, []⟩
  | .fatal failure => ⟨ofFatalFailure failure, span, none, []⟩

def nonempty (text : Option String) : Option String := text.filter fun t => !t.isEmpty

def answer (e : AuthorizationEndpoint) (draw : Draw) (now : Timestamp) (request : Request) :
    Answer :=
  match Parameters.ofQuery request.query with
  | .error response => .plain response
  | .ok p =>
    match nonempty p.clientId, nonempty p.request with
    | some clientId, some text => e.authorize draw now clientId text
    | _, _ => .plain (ofServiceError missingParameters)

end AuthorizationEndpoint

end CredentialIssuer.Http
