import CredentialIssuer.Http.Router
import CredentialIssuer.Proofs.Http.Parameters
import CredentialIssuer.Proofs.Redirect
import CredentialIssuer.Proofs.RequestObject.Trust

/-! Where responses lead. Only the authorization endpoint redirects, only to an address that the
client of the request has registered, and only once the client has signed the request. -/
namespace CredentialIssuer.Http

open RequestObject

def Response.LeadsTo (r : Response) (location : String) : Prop :=
  ("location", location) ∈ r.headers

@[simp] theorem leadsTo_found {location target : String} :
    (Response.found location).LeadsTo target ↔ target = location := by
  simp [Response.LeadsTo, Response.found]

@[simp] theorem not_leadsTo_plain (status : Nat) (text target : String) :
    ¬(Response.plain status text).LeadsTo target := by
  simp [Response.LeadsTo, Response.plain]

@[simp] theorem not_leadsTo_jsonResponse (status : Nat) (body : Json) (target : String) :
    ¬(jsonResponse status body).LeadsTo target := by
  simp [Response.LeadsTo, jsonResponse]

@[simp] theorem not_leadsTo_errorResponse (status : Nat) (code description target : String) :
    ¬(errorResponse status code description).LeadsTo target := by
  intro h
  rcases List.mem_append.mp h with h | h
  · exact not_leadsTo_jsonResponse _ _ _ h
  · rw [challengeHeader] at h
    split at h <;> simp at h

@[simp] theorem not_leadsTo_ofServiceError (e : ServiceError) (target : String) :
    ¬(ofServiceError e).LeadsTo target :=
  not_leadsTo_errorResponse _ _ _ _

@[simp] theorem not_leadsTo_ofFatalFailure (f : FatalFailure) (target : String) :
    ¬(ofFatalFailure f).LeadsTo target :=
  not_leadsTo_errorResponse _ _ _ _

/-- The endpoint for credentials sends nobody elsewhere. -/
theorem not_leadsTo_issue (service : CredentialService) (request : Request) (target : String) :
    ¬(issue service request).response.LeadsTo target := by
  rw [issue, issueWith]
  split
  · rename_i response hbody
    rw [bodyText] at hbody
    split at hbody
    · obtain rfl := Except.error.inj hbody
      simp [Answer.plain]
    · split at hbody
      · cases hbody
      · obtain rfl := Except.error.inj hbody
        simp [Answer.plain]
  · simp only
    split
    · simp [Response.LeadsTo, issued]
    · simp

namespace AuthorizationEndpoint

/-- The client is told of a failure at the redirect target that it was trusted with. -/
theorem recover_eq {failure : RecoverableFailure} {url : Url}
    (hurl : Url.parse failure.redirectUri = .ok url) :
    ∃ location, recover failure = .found location ∧
      Redirect.Carries url (Redirect.errorPairs failure.code (some failure.rejection.description)
        failure.state) location := by
  have hne : Redirect.errorPairs failure.code (some failure.rejection.description) failure.state ≠
      [] := by simp [Redirect.errorPairs]
  obtain ⟨location, htarget, hcarries⟩ := Redirect.target_carries hurl hne
  have hredirect : failure.redirectUrl = .ok location := htarget
  exact ⟨location, by rw [recover, hredirect], hcarries⟩

/-- Once the item is kept, the code is delivered. -/
theorem deliver_kept {e : AuthorizationEndpoint} {draw : Draw} {now : Timestamp}
    (span : LogContext.Span) {valid : ValidatedRequest} {url : Url}
    (hurl : Url.parse valid.redirectUri = .ok url)
    (hkeep : e.keep
      (AuthorizationCode.Store.itemFor draw.code draw.resourceId valid.redirectUri now) = .ok ()) :
    ∃ location, e.deliver draw now span valid =
        ⟨.found location, span.attachSession draw.resourceId,
          some (AuthorizationCode.Store.itemFor draw.code draw.resourceId valid.redirectUri now),
          [.authorizationRequested]⟩ ∧
      Redirect.Carries url (Redirect.successPairs draw.code valid.claims.state) location := by
  have hne : Redirect.successPairs draw.code valid.claims.state ≠ [] := by
    simp [Redirect.successPairs]
  obtain ⟨location, htarget, hcarries⟩ := Redirect.target_carries hurl hne
  have hsuccess : Redirect.success valid.redirectUri draw.code valid.claims.state = .ok location :=
    htarget
  refine ⟨location, ?_, hcarries⟩
  rw [deliver]
  simp only [hkeep, hsuccess]

/-- Where the store refuses the item no code goes out and no event is sent. -/
theorem deliver_refused {e : AuthorizationEndpoint} {draw : Draw} {now : Timestamp}
    {span : LogContext.Span} {valid : ValidatedRequest} {error : ServiceError}
    (hkeep : e.keep
      (AuthorizationCode.Store.itemFor draw.code draw.resourceId valid.redirectUri now) =
        .error error) :
    e.deliver draw now span valid =
      ⟨ofServiceError error, span.attachSession draw.resourceId, none, []⟩ := by
  rw [deliver]
  simp only [hkeep]

/-- A location is the address of the redirect target that the outcome may use. -/
theorem authorize_leadsTo {e : AuthorizationEndpoint} {draw : Draw} {now : Timestamp}
    {clientId compact location : String}
    (h : (e.authorize draw now clientId compact).response.LeadsTo location) :
    (e.authorize draw now clientId compact).response.status = 302 ∧
      ∃ uri url, (e.validator.validateAt compact clientId now).redirectUri? = some uri ∧
        Url.parse uri = .ok url ∧ url.SameAddress location := by
  cases ho : e.validator.validateAt compact clientId now with
  | fatal failure => simp [authorize, ho] at h
  | recoverable failure =>
    obtain ⟨url, hurl⟩ : ∃ url, Url.parse failure.redirectUri = .ok url :=
      parse_of_redirectUri? (by rw [ho]; rfl)
    obtain ⟨target, hrecover, hcarries⟩ := recover_eq hurl
    have hresponse : (e.authorize draw now clientId compact).response = .found target := by
      simp [authorize, ho, hrecover]
    rw [hresponse, leadsTo_found] at h
    subst h
    exact ⟨by rw [hresponse]; rfl, _, url, rfl, hurl, hcarries.address⟩
  | valid request =>
    obtain ⟨url, hurl⟩ : ∃ url, Url.parse request.redirectUri = .ok url :=
      parse_of_redirectUri? (by rw [ho]; rfl)
    cases hkeep : e.keep (AuthorizationCode.Store.itemFor draw.code draw.resourceId
        request.redirectUri now) with
    | error error => simp [authorize, ho, deliver_refused hkeep] at h
    | ok =>
      obtain ⟨target, hdeliver, hcarries⟩ :=
        deliver_kept ((LogContext.empty.withClientId clientId).span "authorize") hurl hkeep
      have hresponse : (e.authorize draw now clientId compact).response = .found target := by
        simp only [authorize, ho, hdeliver]
      rw [hresponse, leadsTo_found] at h
      subst h
      exact ⟨by rw [hresponse]; rfl, _, url, rfl, hurl, hcarries.address⟩

/-- Only a query that asks is ever answered by a redirect. -/
theorem answer_leadsTo {e : AuthorizationEndpoint} {draw : Draw} {now : Timestamp}
    {request : Request} {location : String}
    (h : (e.answer draw now request).response.LeadsTo location) :
    (e.answer draw now request).response.status = 302 ∧
      ∃ clientId compact uri url, Asks request clientId compact ∧
        (e.validator.validateAt compact clientId now).redirectUri? = some uri ∧
        Url.parse uri = .ok url ∧ url.SameAddress location := by
  rcases e.answer_cases draw now request with
    ⟨clientId, compact, hasks, heq⟩ | ⟨-, response, heq, hrefused⟩
  · rw [heq] at h ⊢
    obtain ⟨hstatus, uri, url, huri, hurl, haddress⟩ := authorize_leadsTo h
    exact ⟨hstatus, clientId, compact, uri, url, hasks, huri, hurl, haddress⟩
  · rw [heq, Answer.plain] at h
    rcases hrefused with rfl | ⟨name, rfl⟩
    · exact absurd h (not_leadsTo_ofServiceError _ _)
    · exact absurd h (not_leadsTo_plain _ _ _)

end AuthorizationEndpoint

/-- Whatever the route, a location comes from the authorization endpoint. -/
private theorem handle_leadsTo {s : Service} {routes : List Route} {draw : Draw} {now : Timestamp}
    {request : Request} {location : String}
    (h : (s.handle routes draw now request).response.LeadsTo location) :
    (s.authorization.answer draw now request).response.LeadsTo location ∧
      (s.handle routes draw now request).response.status =
        (s.authorization.answer draw now request).response.status := by
  rw [Service.handle] at h ⊢
  split at h
  · simp [Answer.plain, Response.LeadsTo, Response.empty] at h
  · rename_i route hroute
    split at h
    · rename_i hmethod
      rw [if_pos hmethod]
      have hroute : (s.answerFor draw now request route).response.LeadsTo location := by
        split at h
        · exact h
        · exact h
      cases route with
      | authorization =>
        refine ⟨hroute, ?_⟩
        split
        · rfl
        · rfl
      | credential => exact absurd hroute (not_leadsTo_issue _ _ _)
      | health => exact absurd hroute (not_leadsTo_jsonResponse _ _ _)
    · simp [Answer.plain, Response.LeadsTo, methodNotAllowed, Response.empty] at h

/-- No open redirect. A location is handed out only for a request object that its client signed,
and it is the address of a redirect target that is registered for that client. A fatal outcome, or
a parameter that is missing, empty or given twice, never leads anywhere. -/
theorem handle_leadsTo_registered (s : Service) (routes : List Route) (draw : Draw)
    (now : Timestamp) (request : Request) :
    (∀ location, (s.handle routes draw now request).response.LeadsTo location →
      (s.handle routes draw now request).response.status = 302 ∧
      ∃ clientId compact signed client claims uri url, Asks request clientId compact ∧
        Opens s.authorization.validator.keys compact signed ∧
        Authentic s.authorization.validator.clients clientId signed client claims ∧
        claims.redirectUri = some uri ∧ uri ∈ client.redirectUris ∧
        Url.parse uri = .ok url ∧ url.SameAddress location) ∧
    (∀ clientId compact failure, Asks request clientId compact →
      s.authorization.validator.validateAt compact clientId now = .fatal failure →
      ∀ location, ¬(s.handle routes draw now request).response.LeadsTo location) ∧
    ((∀ clientId compact, ¬Asks request clientId compact) →
      ∀ location, ¬(s.handle routes draw now request).response.LeadsTo location) := by
  have hasked {location : String}
      (h : (s.handle routes draw now request).response.LeadsTo location) :=
    AuthorizationEndpoint.answer_leadsTo (handle_leadsTo h).1
  refine ⟨fun location h => ?_, fun clientId compact failure hasks hfatal location h => ?_,
    fun hnone location h => ?_⟩
  · obtain ⟨hstatus, clientId, compact, uri, url, hasks, huri, hurl, haddress⟩ := hasked h
    obtain ⟨signed, client, claims, ho, ha, hfound, -, hregistered⟩ :=
      (validateAt_redirectUri? _ _ _ _ _).mp huri
    exact ⟨(handle_leadsTo h).2.trans hstatus, clientId, compact, signed, client, claims, uri, url,
      hasks, ho, ha, hfound, hregistered, hurl, haddress⟩
  · obtain ⟨-, _, _, uri, _, hasks', huri, -⟩ := hasked h
    obtain ⟨rfl, rfl⟩ := hasks.unique hasks'
    rw [hfatal] at huri
    cases huri
  · obtain ⟨-, clientId, compact, _, _, hasks, -⟩ := hasked h
    exact hnone clientId compact hasks

end CredentialIssuer.Http
