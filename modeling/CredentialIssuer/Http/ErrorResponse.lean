import CredentialIssuer.Error
import CredentialIssuer.Http.Message
import CredentialIssuer.Json.Printer
import CredentialIssuer.RequestObject.Failure

/-! Errors as responses. What goes wrong inside the service stays there: such errors all look the
same from outside. -/
namespace CredentialIssuer.Http

/-- Only quotes are escaped. -/
def quoteEscaped (text : List Char) : List Char :=
  text.flatMap fun c => if c = '"' then ['\\', '"'] else [c]

/-- The challenge of a response to a client that is not known. -/
def challenge (code description : String) : String :=
  "Bearer error=\"" ++ code ++ "\", error_description=\""
    ++ String.ofList (quoteEscaped description.toList) ++ "\""

/-- Control characters cannot stand in a header, except for the tab. -/
def isHeaderText (text : String) : Bool :=
  text.toList.all fun c => c == '\t' || (' ' ≤ c && c ≠ '\x7f')

def challengeHeader (status : Nat) (code description : String) :
    List (String × String) :=
  let text := challenge code description
  if status = 401 ∧ isHeaderText text then [("www-authenticate", text)] else []

def errorBody (code description : String) : Json :=
  .object [("error", .string code), ("error_description", .string description)]

def jsonResponse (status : Nat) (body : Json) : Response :=
  ⟨status, [("content-type", "application/json")], body.print⟩

def errorResponse (status : Nat) (code description : String) : Response :=
  let r := jsonResponse status (errorBody code description)
  { r with headers := r.headers ++ challengeHeader status code description }

/-- The only description of an error inside the service. -/
def hiddenDescription : String := "Internal server error"

def ofServiceError (e : ServiceError) : Response :=
  errorResponse e.status e.code (if 500 ≤ e.status then hiddenDescription else e.description)

def ofFatalFailure (f : RequestObject.FatalFailure) : Response :=
  errorResponse f.code.status f.code.text f.description

end CredentialIssuer.Http
