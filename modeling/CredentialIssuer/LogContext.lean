/-! The fields that every log line of a request carries. -/
namespace CredentialIssuer

structure LogContext where
  clientId : Option String
  deriving DecidableEq, Repr

namespace LogContext

def componentId : String := "passport-cri"

def empty : LogContext := ⟨none⟩

def withClientId (_ : LogContext) (clientId : String) : LogContext := ⟨some clientId⟩

private def clientField (c : LogContext) : List (String × String) :=
  match c.clientId with
  | some clientId => [("client-id", clientId)]
  | none => []

private def componentField : String × String := ("component-id", componentId)

def fields (c : LogContext) : List (String × String) := componentField :: c.clientField

/-- The span of an operation, as the fields recorded on it in order. -/
structure Span where
  recorded : List (String × String)
  deriving DecidableEq, Repr

/-- Before any span is open nothing is recorded. -/
def Span.none : Span := ⟨[]⟩

def span (c : LogContext) (operation : String) : Span :=
  ⟨("operation", operation) :: c.fields⟩

/-- The session becomes known while the span is open. -/
def Span.attachSession (s : Span) (sessionId : String) : Span :=
  ⟨s.recorded ++ [("session-id", sessionId)]⟩

end LogContext

end CredentialIssuer
