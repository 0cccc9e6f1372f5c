import CredentialIssuer.Http.Router
import CredentialIssuer.Proofs.AccessToken
import CredentialIssuer.Proofs.Credential.Assembly
import CredentialIssuer.Proofs.Credential.Subject

/-! What a failed request for a credential tells of the stores behind the service: that something
went wrong there, and nothing else. Failures inside the service are all answered with one response,
and the response to a fault of the request is a function of the request. -/
namespace CredentialIssuer

namespace ServiceError

private theorem isServerError_iff (e : ServiceError) : e.isServerError = true ↔ 500 ≤ e.status := by
  cases e <;> simp [isServerError, isClientError, status]

end ServiceError

private theorem TokenError.isServerError_toServiceError (e : TokenError) :
    e.toServiceError.isServerError = true := by
  rw [toServiceError]
  split <;> rfl

private theorem IdentityCheck.isServerError_of_assemble {check : IdentityCheck} {e : ServiceError}
    (h : check.assemble = .error e) : e.isServerError = true := by
  obtain ⟨r, hr, rfl⟩ := (((assemble_tells check).error_iff e).mp h).exists_mem
  have hfields : ∀ r ∈ check.requirements, ∃ field, r.2 = .credentialAssembly field := by
    simp [requirements]
  obtain ⟨field, hfield⟩ := hfields r hr
  rw [hfield]
  rfl

section Pipeline

/-- What a request is refused with on its own account, as far as the token that it bears. -/
def refusal (requestJwt : String) (authorization : Option String) : ServiceError :=
  match requestSubject requestJwt with
  | .error e => e
  | .ok _ =>
    match authorization with
    | none => .missingToken
    | some text =>
      match AccessToken.parse text with
      | .error e => e
      | .ok _ => AccessToken.accessDenied

namespace Collaborators

/-- The stores fail as storage does, with errors that are not those of a client. -/
structure FailInside (c : Collaborators) : Prop where
  tokens : ∀ token e, c.tokens token = .error e → e.isServerError = true
  checks : ∀ resourceId e, c.checks resourceId = .error e → e.isServerError = true

variable {c : Collaborators}

/-- Behind the access token all errors are those of the service. -/
theorem FailInside.signedFor (hc : c.FailInside) {subject resourceId : String} {e : ServiceError}
    (h : c.signedFor subject resourceId = .error e) : e.isServerError = true := by
  rcases bind_eq_error_iff.mp h with hcheck | ⟨check, -, h⟩
  · unfold checkOf at hcheck
    split at hcheck
    · rename_i hstore
      obtain rfl := Except.error.inj hcheck
      exact hc.checks _ _ hstore
    · obtain rfl := Except.error.inj hcheck
      rfl
    · cases hcheck
  rcases bind_eq_error_iff.mp h with hassemble | ⟨vc, -, h⟩
  · exact IdentityCheck.isServerError_of_assemble hassemble
  split at h
  · cases h
  · obtain rfl := Except.error.inj h
    exact TokenError.isServerError_toServiceError _

/-- An access token is not resolved because of the store, or because of what the request bears. -/
theorem FailInside.resolve (hc : c.FailInside) {requestJwt subject : String}
    {authorization : Option String} {e : ServiceError}
    (hsubject : requestSubject requestJwt = .ok subject)
    (h : (AccessToken.resolve c.tokens authorization).result = .error e) :
    e.isServerError = true ∨ e = refusal requestJwt authorization := by
  have hresolves := AccessToken.resolves_resolve c.tokens authorization
  rw [h] at hresolves
  generalize (AccessToken.resolve c.tokens authorization).lookups = asked at hresolves
  cases hresolves with
  | missing => exact .inr (by simp only [refusal, hsubject])
  | malformed hnone =>
    have hparse := AccessToken.parse_eq_error_iff.mpr ⟨rfl, hnone⟩
    exact .inr (by simp only [refusal, hsubject, hparse])
  | failed _ hstore => exact .inl (hc.tokens _ _ hstore)
  | unknown hbearer _ =>
    have hparse := AccessToken.parse_eq_ok_iff.mpr hbearer
    exact .inr (by simp only [refusal, hsubject, hparse])

/-- An error of an issuance is one of the service, or else the refusal of the request. -/
theorem FailInside.issue (hc : c.FailInside) {requestJwt : String} {authorization : Option String}
    {e : ServiceError} (h : (c.issue requestJwt authorization).result = .error e) :
    e.isServerError = true ∨ e = refusal requestJwt authorization := by
  unfold Collaborators.issue at h
  cases hsubject : requestSubject requestJwt with
  | error failure =>
    simp only [hsubject] at h
    obtain rfl := Except.error.inj h
    exact .inr (by simp only [refusal, hsubject])
  | ok subject =>
    simp only [hsubject] at h
    cases hresolved : (AccessToken.resolve c.tokens authorization).result with
    | error failure =>
      simp only [hresolved] at h
      obtain rfl := Except.error.inj h
      exact hc.resolve hsubject hresolved
    | ok resourceId =>
      simp only [hresolved] at h
      cases hsigned : c.signedFor subject resourceId with
      | error failure =>
        simp only [hsigned] at h
        obtain rfl := Except.error.inj h
        exact .inl (hc.signedFor hsigned)
      | ok issued =>
        simp only [hsigned] at h
        cases h

end Collaborators

end Pipeline

namespace Http

section Responses

def Response.IsRefusal (r : Response) : Prop := 400 ≤ r.status ∧ r.status < 500

def Response.IsFailure (r : Response) : Prop := 500 ≤ r.status ∧ r.status < 600

/-- All that is ever told of an error inside the service. -/
def concealed : Response := errorResponse 500 "server_error" hiddenDescription

private theorem ofServiceError_eq_concealed {e : ServiceError} (h : e.isServerError = true) :
    ofServiceError e = concealed := by
  cases e <;> first | rfl | cases h

private theorem status_of_bodyText {request : Request} {response : Response}
    (h : bodyText request = .error response) : response.status < 500 := by
  unfold bodyText at h
  split at h
  · obtain rfl := Except.error.inj h
    decide
  · split at h
    · cases h
    · obtain rfl := Except.error.inj h
      exact (by decide : 400 < 500)

/-- A response tells of the body, of a credential or of the error of an issuance. -/
theorem issueWith_cases (c : Collaborators) (request : Request) :
    (∃ response, bodyText request = .error response ∧
      (issueWith c request).response = response) ∨
    ∃ body, bodyText request = .ok body ∧
      ((∃ credential, (issueWith c request).response = issued credential) ∨
        ∃ e, (c.issue body (authorization request)).result = .error e ∧
          (issueWith c request).response = ofServiceError e) := by
  cases hbody : bodyText request with
  | error response =>
    refine .inl ⟨response, rfl, ?_⟩
    simp only [issueWith, hbody, Answer.plain]
  | ok body =>
    refine .inr ⟨body, rfl, ?_⟩
    cases hresult : (c.issue body (authorization request)).result with
    | ok credential => exact .inl ⟨credential, by simp only [issueWith, hbody, hresult]⟩
    | error e => exact .inr ⟨e, rfl, by simp only [issueWith, hbody, hresult]⟩

/-- All failures of the service are answered in the same words. -/
theorem issueWith_eq_concealed {c : Collaborators} {request : Request}
    (h : (issueWith c request).response.IsFailure) :
    (issueWith c request).response = concealed := by
  rcases issueWith_cases c request with
    ⟨response, hbody, hresponse⟩ | ⟨body, -, ⟨credential, hresponse⟩ | ⟨e, -, hresponse⟩⟩ <;>
  rw [hresponse] at h ⊢
  · exact absurd (status_of_bodyText hbody) (Nat.not_lt.mpr h.1)
  · exact absurd h.1 (by decide : ¬ 500 ≤ 200)
  · exact ofServiceError_eq_concealed (e.isServerError_iff.mpr h.1)

def refusalOf (request : Request) : Response :=
  match bodyText request with
  | .error response => response
  | .ok body => ofServiceError (refusal body (authorization request))

/-- What a request is refused with follows from the request alone, as long as collaborators fail
inside. -/
theorem issueWith_eq_refusalOf {c : Collaborators} (hc : c.FailInside) {request : Request}
    (h : (issueWith c request).response.IsRefusal) :
    (issueWith c request).response = refusalOf request := by
  rcases issueWith_cases c request with
    ⟨response, hbody, hresponse⟩ | ⟨body, hbody, ⟨credential, hresponse⟩ | ⟨e, he, hresponse⟩⟩ <;>
  rw [hresponse] at h ⊢
  · rw [refusalOf, hbody]
  · exact absurd h.1 (by decide : ¬ 400 ≤ 200)
  · rcases hc.issue he with hserver | rfl
    · exact absurd (e.isServerError_iff.mp hserver) (Nat.not_le.mpr h.2)
    · rw [refusalOf, hbody]

/-- Nothing else of a request matters. -/
private theorem refusalOf_congr {request other : Request} (hbody : request.body = other.body)
    (hauthorization : request.header? "authorization" = other.header? "authorization") :
    refusalOf request = refusalOf other := by
  simp only [refusalOf, bodyText, authorization, hbody, hauthorization]

end Responses

section Endpoint

private theorem Route.path_inj {a b : Route} (h : a.path = b.path) : a = b := by
  cases a <;> cases b <;> first | rfl | exact absurd h (by decide)

private theorem handle_credential (s : Service) {routes : List Route} (draw : Draw)
    (now : Timestamp)
    {request : Request} (hroute : .credential ∈ routes) (hmethod : request.method = "POST")
    (hpath : request.path = "/credential/issue") :
    s.handle routes draw now request = issueWith s.credential.collaborators request := by
  have hfind : (routes.find? fun route => route.path == request.path) = some .credential := by
    have hsome : (routes.find? fun route => route.path == request.path).isSome = true :=
      List.find?_isSome.mpr ⟨.credential, hroute, by simp [hpath, Route.path]⟩
    obtain ⟨route, hfound⟩ := Option.isSome_iff_exists.mp hsome
    have hsame : route.path = request.path := by simpa using List.find?_some hfound
    rw [hfound, Route.path_inj (hsame.trans hpath : route.path = Route.credential.path)]
  simp [Service.handle, hfind, Route.methods, hmethod, Service.answerFor, issue]

end Endpoint

/-- Two services that fail to serve requests give the same response, whatever went wrong and
whatever is kept in their stores. Two that refuse a request for a fault of its own give the same
response, which depends on nothing but the body and the authorization of the request. -/
theorem failures_answered_alike :
    (∀ (s : Service) (routes : List Route) (draw : Draw) (now : Timestamp) (request : Request),
      .credential ∈ routes → request.method = "POST" → request.path = "/credential/issue" →
      s.handle routes draw now request = issueWith s.credential.collaborators request) ∧
    ∀ (one two : Collaborators) (request other : Request),
      ((issueWith one request).response.IsFailure → (issueWith two other).response.IsFailure →
        (issueWith one request).response = (issueWith two other).response) ∧
      (one.FailInside → two.FailInside → request.body = other.body →
        request.header? "authorization" = other.header? "authorization" →
        (issueWith one request).response.IsRefusal → (issueWith two other).response.IsRefusal →
        (issueWith one request).response = (issueWith two other).response) := by
  refine ⟨fun s routes draw now request => handle_credential s draw now,
    fun one two request other => ⟨fun hone htwo => ?_, ?_⟩⟩
  · rw [issueWith_eq_concealed hone, issueWith_eq_concealed htwo]
  · intro hin hin' hbody hauthorization hone htwo
    rw [issueWith_eq_refusalOf hin hone, issueWith_eq_refusalOf hin' htwo,
      refusalOf_congr hbody hauthorization]

section Samples

def samplePayload : Json.Members := [("sub", .string "user")]

def sampleJwt : String := Jwt.compact [] (Utf8.encode (Json.object samplePayload).print) []

def sampleRequest (headers : List (String × Bytes)) : Request where
  method := "POST"
  path := "/credential/issue"
  query := []
  headers := headers
  body := Utf8.encode sampleJwt

/-- Nothing is stored here, and no store can be read if it is locked. -/
def sampleCollaborators (locked : Bool) : Collaborators where
  tokens token :=
    if locked then .error (.storage ("locked at " ++ token)) else .ok (some "resource")
  checks _ := .ok none
  sign _ := .error (.encoding "no key")

private theorem sampleCollaborators_failInside (locked : Bool) :
    (sampleCollaborators locked).FailInside where
  tokens token e h := by
    cases locked <;> cases h
    rfl
  checks resourceId e h := by cases h

private theorem requestSubject_sampleJwt : requestSubject sampleJwt = .ok "user" := by
  have hread : Json.read? (Json.object samplePayload).print = some (.object samplePayload) := by
    rw [Json.read?_print, Json.readSymbols?_chars rfl]
  exact requestSubject_eq_ok_iff.mpr (names_compact hread rfl rfl (by decide))

private theorem bodyText_sampleRequest (headers : List (String × Bytes)) :
    bodyText (sampleRequest headers) = .ok sampleJwt := by
  have hlength : ¬ maxBodyLength < (sampleRequest headers).body.length := by
    have h : ¬ maxBodyLength < (Utf8.encode sampleJwt).length := by decide +kernel
    exact h
  rw [bodyText, if_neg hlength, sampleRequest, Utf8.decode_encode]

private theorem issueWith_sampleRequest (c : Collaborators) {headers : List (String × Bytes)}
    {e : ServiceError}
    (h : (c.issue sampleJwt (authorization (sampleRequest headers))).result = .error e) :
    (issueWith c (sampleRequest headers)).response = ofServiceError e := by
  simp only [issueWith, bodyText_sampleRequest, h]

private theorem issueWith_bearer (c : Collaborators) {e : ServiceError}
    (h : (c.issue sampleJwt (some "Bearer abc")).result = .error e) :
    (issueWith c (sampleRequest [("authorization", Utf8.encode "Bearer abc")])).response =
      ofServiceError e := by
  have hheader : authorization (sampleRequest [("authorization", Utf8.encode "Bearer abc")]) =
      some "Bearer abc" := by decide +kernel
  exact issueWith_sampleRequest c (hheader ▸ h)

private theorem parse_bearer : AccessToken.parse "Bearer abc" = .ok "abc" := rfl

private theorem sampleRequest_failure (locked : Bool) :
    (issueWith (sampleCollaborators locked)
      (sampleRequest [("authorization", Utf8.encode "Bearer abc")])).response.IsFailure := by
  cases locked with
  | true =>
    rw [issueWith_bearer (e := .storage "locked at abc")]
    · exact ⟨by decide, by decide⟩
    · rw [Collaborators.issue]
      simp only [requestSubject_sampleJwt, AccessToken.resolve_of_parsed parse_bearer]
      rfl
  | false =>
    rw [issueWith_bearer (e := .storage "No identity check record for resource resource")]
    · exact ⟨by decide, by decide⟩
    · rw [Collaborators.issue]
      simp only [requestSubject_sampleJwt, AccessToken.resolve_of_parsed parse_bearer]
      rfl

private theorem sampleRequest_refusal (locked : Bool) :
    (issueWith (sampleCollaborators locked) (sampleRequest [])).response.IsRefusal := by
  rw [issueWith_sampleRequest (e := .missingToken)]
  · exact ⟨by decide, by decide⟩
  · rw [Collaborators.issue]
    simp only [requestSubject_sampleJwt]
    rfl

end Samples

/-- A store that cannot be read is answered like one that lacks the record. -/
theorem locked_and_empty_alike :
    (∀ (s : Service) (draw : Draw) (now : Timestamp),
      s.handle Route.issuer draw now (sampleRequest []) =
        issueWith s.credential.collaborators (sampleRequest [])) ∧
    (∀ locked, (sampleCollaborators locked).FailInside) ∧
    (issueWith (sampleCollaborators true)
        (sampleRequest [("authorization", Utf8.encode "Bearer abc")])).response =
      (issueWith (sampleCollaborators false)
        (sampleRequest [("authorization", Utf8.encode "Bearer abc")])).response ∧
    (issueWith (sampleCollaborators true) (sampleRequest [])).response =
      (issueWith (sampleCollaborators false) (sampleRequest [])).response :=
  have hhandle := failures_answered_alike.1
  have halike := failures_answered_alike.2 (sampleCollaborators true) (sampleCollaborators false)
  ⟨fun s draw now => hhandle s Route.issuer draw now _ (by decide) rfl rfl,
    sampleCollaborators_failInside,
    (halike _ _).1 (sampleRequest_failure true) (sampleRequest_failure false),
    (halike _ _).2 (sampleCollaborators_failInside true) (sampleCollaborators_failInside false) rfl
      rfl (sampleRequest_refusal true) (sampleRequest_refusal false)⟩

/-- A store of records that fails with an error of the client. -/
def outspokenCollaborators (words : String) : Collaborators where
  tokens _ := .ok (some "resource")
  checks _ := .error (.invalidRequest words)
  sign _ := .error (.encoding "no key")

/-- The words of such a store are shown, so that one request is refused in two ways. -/
theorem outspoken_refusals_differ :
    let refused (words : String) := (issueWith (outspokenCollaborators words)
      (sampleRequest [("authorization", Utf8.encode "Bearer abc")])).response
    (refused "one").IsRefusal ∧ (refused "two").IsRefusal ∧ refused "one" ≠ refused "two" := by
  have hrefused (words : String) : (issueWith (outspokenCollaborators words)
      (sampleRequest [("authorization", Utf8.encode "Bearer abc")])).response =
        ofServiceError (.invalidRequest words) := by
    refine issueWith_bearer _ ?_
    rw [Collaborators.issue]
    simp only [requestSubject_sampleJwt, AccessToken.resolve_of_parsed parse_bearer]
    rfl
  simp only [hrefused]
  exact ⟨⟨by decide, by decide⟩, ⟨by decide, by decide⟩, by decide +kernel⟩

end Http

end CredentialIssuer
