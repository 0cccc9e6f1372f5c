import CredentialIssuer.Credential.Issuance
import CredentialIssuer.Http.Authorization

/-! The endpoint that issues credentials. -/
namespace CredentialIssuer.Http

/-- The longest body that is read, in bytes. -/
def maxBodyLength : Nat := 2097152

def defectText (bytes : Bytes) : String :=
  match Utf8.defect? bytes with
  | some (index, some length) =>
    "invalid utf-8 sequence of " ++ toString length ++ " bytes from index " ++ toString index
  | some (index, none) => "incomplete utf-8 byte sequence from index " ++ toString index
  | none => ""

/-- The body as text. -/
def bodyText (request : Request) : Except Response String :=
  if maxBodyLength < request.body.length then
    .error (.plain 413 "Failed to buffer the request body: length limit exceeded")
  else
    match Utf8.decode? request.body with
    | some text => .ok text
    | none =>
      .error (.plain 400
        ("Request body didn't contain valid UTF-8: " ++ defectText request.body))

def isVisible (b : UInt8) : Bool := b == 9 || (32 ≤ b && b < 127)

/-- A header that holds more than visible ASCII counts as an empty one. -/
def authorization (request : Request) : Option String :=
  (request.header? "authorization").map fun value =>
    if value.all isVisible then String.ofList (value.map fun b => Char.ofNat b.toNat) else ""

def issued (credential : IssuedCredential) : Response :=
  ⟨200, [("content-type", "application/jwt")], credential.jwt⟩

def issuanceSpan (session : Option String) : LogContext.Span :=
  let span := LogContext.empty.span "issue_credential"
  match session with
  | some id => span.attachSession id
  | none => span

/-- The answer to a request for a credential, whoever it takes to issue one. -/
def issueWith (collaborators : Collaborators) (request : Request) : Answer :=
  match bodyText request with
  | .error response => .plain response
  | .ok body =>
    let issuance := collaborators.issue body (authorization request)
    let response := match issuance.result with
      | .ok credential => issued credential
      | .error e => ofServiceError e
    ⟨response, issuanceSpan issuance.session, none, issuance.events⟩

def issue (service : CredentialService) (request : Request) : Answer :=
  issueWith service.collaborators request

end CredentialIssuer.Http
