import CredentialIssuer.Text.Bytes

/-! Requests and responses of the service. -/
namespace CredentialIssuer.Http

structure Request where
  method : String
  path : String
  /-- What follows the question mark, as it was sent. -/
  query : List Char
  /-- Names in lower case, with values that need not be texts. -/
  headers : List (String × Bytes)
  body : Bytes
  deriving Repr

namespace Request

/-- Path and query of a target; a fragment does not count. -/
def splitTarget (target : String) : String × List Char :=
  let visible := target.toList.takeWhile (· ≠ '#')
  (String.ofList (visible.takeWhile (· ≠ '?')), (visible.dropWhile (· ≠ '?')).drop 1)

/-- The first value of a header. -/
def header? (r : Request) (name : String) : Option Bytes := r.headers.lookup name

end Request

structure Response where
  status : Nat
  headers : List (String × String)
  body : String
  deriving DecidableEq, Repr

namespace Response

def header? (r : Response) (name : String) : Option String := r.headers.lookup name

def empty (status : Nat) : Response := ⟨status, [], ""⟩

/-- A refusal in plain words. -/
def plain (status : Nat) (text : String) : Response :=
  ⟨status, [("content-type", "text/plain; charset=utf-8")], text⟩

/-- A redirect. -/
def found (location : String) : Response := ⟨302, [("location", location)], ""⟩

def withoutBody (r : Response) : Response := { r with body := "" }

end Response

end CredentialIssuer.Http
