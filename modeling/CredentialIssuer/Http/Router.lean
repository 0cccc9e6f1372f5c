import CredentialIssuer.Http.Issue

/-! From paths and methods to endpoints. -/
namespace CredentialIssuer.Http

inductive Route where
  | authorization
  | credential
  | health
  deriving DecidableEq, Repr

namespace Route

def path : Route → String
  | .authorization => "/authorization"
  | .credential => "/credential/issue"
  | .health => "/health"

def methods : Route → List String
  | .authorization | .health => ["GET", "HEAD"]
  | .credential => ["POST"]

/-- The endpoints of the issuer. -/
def issuer : List Route := [.authorization, .credential]

/-- The endpoints of a server, which also tells that it is up. -/
def server : List Route := issuer ++ [.health]

end Route

structure Service where
  authorization : AuthorizationEndpoint
  credential : CredentialService

def healthReport : Json :=
  .object [("service", .string LogContext.componentId), ("status", .string "ok")]

def methodNotAllowed (route : Route) : Response :=
  { Response.empty 405 with headers := [("allow", String.intercalate "," route.methods)] }

namespace Service

def answerFor (s : Service) (draw : Draw) (now : Timestamp) (request : Request) :
    Route → Answer
  | .authorization => s.authorization.answer draw now request
  | .credential => issue s.credential request
  | .health => .plain (jsonResponse 200 healthReport)

/-- Paths are compared as they are. HEAD is answered like GET, but without a body. -/
def handle (s : Service) (routes : List Route) (draw : Draw) (now : Timestamp)
    (request : Request) : Answer :=
  match routes.find? fun route => route.path == request.path with
  | none => .plain (.empty 404)
  | some route =>
    if route.methods.contains request.method then
      let answer := s.answerFor draw now request route
      if request.method = "HEAD" then { answer with response := answer.response.withoutBody }
      else answer
    else .plain (methodNotAllowed route)

end Service

end CredentialIssuer.Http
