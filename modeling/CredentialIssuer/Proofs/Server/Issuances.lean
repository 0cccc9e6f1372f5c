import CredentialIssuer.Audit
import CredentialIssuer.Proofs.Credential.Assembly
import CredentialIssuer.Proofs.Credential.Subject
import CredentialIssuer.Proofs.Keyed
import CredentialIssuer.Proofs.Result
import CredentialIssuer.Server.Memory
import Mathlib.Data.List.Induction

/-! Issuing over stores in memory. What an issuance comes to follows from the history of the stores:
from what was last recorded for the token, and from the last check of the resource behind it. -/
namespace CredentialIssuer.Server

inductive Operation where
  | addToken (token resourceId : String)
  | addCheck (check : IdentityCheck)
  | issue (requestJwt : String) (authorization : Option String) (now : Timestamp)
      (sink : Audit.Sink)

def Ledger.issuance (l : Ledger) (signer : CredentialSigner) (requestJwt : String)
    (authorization : Option String) : Issuance :=
  (l.memory.credentialService signer).issue requestJwt authorization

def perform (signer : CredentialSigner) (l : Ledger) : Operation → Ledger
  | .addToken token resourceId => { l with memory := l.memory.addToken token resourceId }
  | .addCheck check => { l with memory := l.memory.addCheck check }
  | .issue requestJwt authorization now sink =>
    l.emitAll sink now (l.issuance signer requestJwt authorization).events

/-- The stores, empty at first, and the events after a history. -/
def replay (signer : CredentialSigner) (ops : List Operation) : Ledger :=
  ops.foldl (perform signer) .empty

def latestResource (ops : List Operation) (token : String) : Option String :=
  (ops.filterMap fun
    | .addToken t resourceId => if t = token then some resourceId else none
    | _ => none).getLast?

def latestCheck (ops : List Operation) (resourceId : String) : Option IdentityCheck :=
  (ops.filterMap fun
    | .addCheck check => if check.resourceId = resourceId then some check else none
    | _ => none).getLast?

/-- A later mapping of the token replaces what there was, and nothing else does. -/
private theorem latestResource_append_singleton (ops : List Operation) (op : Operation)
    (token : String) :
    latestResource (ops ++ [op]) token =
      match op with
      | .addToken t resourceId => if token = t then some resourceId else latestResource ops token
      | _ => latestResource ops token := by
  simp only [latestResource, List.filterMap_append]
  cases op with
  | addToken t resourceId =>
    by_cases h : t = token
    · simp [h]
    · simp [h, Ne.symm h]
  | addCheck check => simp
  | issue requestJwt authorization now sink => simp

private theorem latestCheck_append_singleton (ops : List Operation) (op : Operation)
    (resourceId : String) :
    latestCheck (ops ++ [op]) resourceId =
      match op with
      | .addCheck check =>
        if resourceId = check.resourceId then some check else latestCheck ops resourceId
      | _ => latestCheck ops resourceId := by
  simp only [latestCheck, List.filterMap_append]
  cases op with
  | addToken t resourceId => simp
  | addCheck check =>
    by_cases h : check.resourceId = resourceId
    · simp [h]
    · simp [h, Ne.symm h]
  | issue requestJwt authorization now sink => simp

private theorem latestCheck_resourceId {ops : List Operation} {resourceId : String}
    {check : IdentityCheck}
    (h : latestCheck ops resourceId = some check) : check.resourceId = resourceId := by
  obtain ⟨op, -, hop⟩ := List.mem_filterMap.mp (List.mem_of_getLast? h)
  split at hop
  · split at hop
    · rename_i hid
      rw [← Option.some.inj hop, hid]
    · cases hop
  · cases hop

/-- The stores hold under each key what the history last recorded for it. -/
structure Reflects (m : Memory) (ops : List Operation) : Prop where
  tokens : ∀ token, m.tokens.find? token = latestResource ops token
  checks : ∀ resourceId, m.checks.find? resourceId = latestCheck ops resourceId

/-- Every operation keeps the stores true to the history. -/
theorem Reflects.perform {signer : CredentialSigner} {l : Ledger} {ops : List Operation}
    (h : Reflects l.memory ops) (op : Operation) :
    Reflects (perform signer l op).memory (ops ++ [op]) := by
  refine ⟨fun token => ?_, fun id => ?_⟩
  · rw [latestResource_append_singleton, ← h.tokens]
    cases op with
    | addToken t resourceId => exact Keyed.find?_insert _ _ _ _
    | addCheck check => rfl
    | issue requestJwt authorization now sink => rfl
  · rw [latestCheck_append_singleton, ← h.checks]
    cases op with
    | addToken t resourceId => rfl
    | addCheck check => exact Keyed.find?_insert _ _ _ _
    | issue requestJwt authorization now sink => rfl

/-- A history that goes on by one step. -/
theorem replay_append_singleton (signer : CredentialSigner) (ops : List Operation)
    (op : Operation) :
    replay signer (ops ++ [op]) = perform signer (replay signer ops) op := by
  rw [replay, List.foldl_append]
  rfl

/-- After any history the stores hold what was last recorded. -/
theorem replay_reflects (signer : CredentialSigner) (ops : List Operation) :
    Reflects (replay signer ops).memory ops := by
  induction ops using List.reverseRecOn with
  | nil => exact ⟨fun _ => rfl, fun _ => rfl⟩
  | append_singleton ops op ih =>
    rw [replay_append_singleton]
    exact ih.perform op

/-- What stands behind a credential: a subject in the request, a token that leads to a resource, and
a last check of that resource that is complete. -/
structure Entitled (ops : List Operation) (requestJwt : String) (authorization : Option String)
    (subject resourceId : String) (vc : Credential) : Prop where
  subject : requestSubject requestJwt = .ok subject
  resource : ∃ text token, authorization = some text ∧ AccessToken.parse text = .ok token ∧
    latestResource ops token = some resourceId
  check : ∃ check, latestCheck ops resourceId = some check ∧ check.assemble = .ok vc

/-- What stands behind a credential settles all that it says. -/
theorem Entitled.unique {ops : List Operation} {requestJwt : String} {authorization : Option String}
    {subject subject' resourceId resourceId' : String} {vc vc' : Credential}
    (h : Entitled ops requestJwt authorization subject resourceId vc)
    (h' : Entitled ops requestJwt authorization subject' resourceId' vc') :
    subject = subject' ∧ resourceId = resourceId' ∧ vc = vc' := by
  obtain ⟨hs, ⟨text, token, rfl, hp, hr⟩, check, hc, ha⟩ := h
  obtain ⟨hs', ⟨text', token', htext, hp', hr'⟩, check', hc', ha'⟩ := h'
  obtain rfl := Option.some.inj htext
  obtain rfl := Except.ok.inj (hs.symm.trans hs')
  obtain rfl := Except.ok.inj (hp.symm.trans hp')
  obtain rfl := Option.some.inj (hr.symm.trans hr')
  obtain rfl := Option.some.inj (hc.symm.trans hc')
  exact ⟨rfl, rfl, Except.ok.inj (ha.symm.trans ha')⟩

/-- Why nothing is issued: the first stage that fails, after those that did not. -/
inductive Refused (ops : List Operation) (requestJwt : String) :
    Option String → ServiceError → Prop where
  | subject {authorization e} (failed : requestSubject requestJwt = .error e) :
    Refused ops requestJwt authorization e
  | missing {subject} (named : requestSubject requestJwt = .ok subject) :
    Refused ops requestJwt none .missingToken
  | header {subject text e} (named : requestSubject requestJwt = .ok subject)
    (failed : AccessToken.parse text = .error e) : Refused ops requestJwt (some text) e
  | token {subject text token} (named : requestSubject requestJwt = .ok subject)
    (parsed : AccessToken.parse text = .ok token) (failed : latestResource ops token = none) :
    Refused ops requestJwt (some text) AccessToken.accessDenied
  | record {subject text token resourceId} (named : requestSubject requestJwt = .ok subject)
    (parsed : AccessToken.parse text = .ok token)
    (granted : latestResource ops token = some resourceId)
    (failed : latestCheck ops resourceId = none) :
    Refused ops requestJwt (some text)
      (.storage ("No identity check record for resource " ++ resourceId))
  | assembly {subject text token resourceId check e}
    (named : requestSubject requestJwt = .ok subject)
    (parsed : AccessToken.parse text = .ok token)
    (granted : latestResource ops token = some resourceId)
    (recorded : latestCheck ops resourceId = some check) (failed : check.assemble = .error e) :
    Refused ops requestJwt (some text) e

/-- A credential is about the resource of its record. -/
theorem assemble_resourceId {check : IdentityCheck} {vc : Credential}
    (h : check.assemble = .ok vc) : vc.resourceId = check.resourceId := by
  simp only [IdentityCheck.assemble, bind_eq_ok_iff] at h
  obtain ⟨_, _, _, _, _, _, _, _, _, _, _, _, _, _, _, _, _, _, _, _, h⟩ := h
  rw [← Except.ok.inj h]

/-- There are no other cases. -/
theorem entitled_or_refused (ops : List Operation) (requestJwt : String)
    (authorization : Option String) :
    (∃ subject resourceId vc, Entitled ops requestJwt authorization subject resourceId vc) ∨
      ∃ e, Refused ops requestJwt authorization e := by
  cases hs : requestSubject requestJwt with
  | error e => exact .inr ⟨e, .subject hs⟩
  | ok subject =>
    cases authorization with
    | none => exact .inr ⟨_, .missing hs⟩
    | some text =>
      cases hp : AccessToken.parse text with
      | error e => exact .inr ⟨e, .header hs hp⟩
      | ok token =>
        cases hr : latestResource ops token with
        | none => exact .inr ⟨_, .token hs hp hr⟩
        | some resourceId =>
          cases hc : latestCheck ops resourceId with
          | none => exact .inr ⟨_, .record hs hp hr hc⟩
          | some check =>
            cases ha : check.assemble with
            | error e => exact .inr ⟨e, .assembly hs hp hr hc ha⟩
            | ok vc =>
              exact .inl ⟨subject, resourceId, vc, hs, ⟨text, token, rfl, hp, hr⟩, ⟨check, hc, ha⟩⟩

section Issuance

variable {l : Ledger} {ops : List Operation} {signer : CredentialSigner} {requestJwt : String}
  {authorization : Option String}

private theorem resolve_eq (hl : Reflects l.memory ops) {text token : String}
    (hp : AccessToken.parse text = .ok token) :
    (AccessToken.resolve (l.memory.credentialService signer).collaborators.tokens
        (some text)).result =
      match latestResource ops token with
      | some resourceId => .ok resourceId
      | none => .error AccessToken.accessDenied := by
  rw [← hl.tokens]
  simp only [AccessToken.resolve_of_parsed hp, AccessToken.found, CredentialService.collaborators,
    Memory.credentialService, Memory.tokenStore]
  cases l.memory.tokens.find? token <;> rfl

private theorem checkOf_eq (hl : Reflects l.memory ops) (resourceId : String) :
    (l.memory.credentialService signer).collaborators.checkOf resourceId =
      match latestCheck ops resourceId with
      | some check => .ok check
      | none => .error (.storage ("No identity check record for resource " ++ resourceId)) := by
  rw [← hl.checks]
  simp only [Collaborators.checkOf, CredentialService.collaborators, Memory.credentialService,
    Memory.checkStore]
  cases l.memory.checks.find? resourceId <;> rfl

private theorem issuance_of_entitled {subject resourceId : String} {vc : Credential}
    (hl : Reflects l.memory ops) (h : Entitled ops requestJwt authorization subject resourceId vc) :
    l.issuance signer requestJwt authorization =
      ⟨.ok ⟨resourceId, signer.signCredential ⟨subject, vc⟩⟩, some resourceId,
        [.credentialIssued]⟩ := by
  obtain ⟨hs, ⟨text, token, rfl, hp, hr⟩, check, hc, ha⟩ := h
  have hsigned :
      (l.memory.credentialService signer).collaborators.signedFor subject resourceId =
        .ok ⟨resourceId, signer.signCredential ⟨subject, vc⟩⟩ := by
    rw [Collaborators.signedFor, checkOf_eq hl, hc]
    simp [ha, CredentialService.collaborators, Memory.credentialService, bind, Except.bind, pure,
      Except.pure]
  rw [Ledger.issuance, CredentialService.issue, Collaborators.issue]
  simp only [hs, resolve_eq hl hp, hr, hsigned]

private theorem issuance_of_refused {e : ServiceError} (hl : Reflects l.memory ops)
    (h : Refused ops requestJwt authorization e) :
    (l.issuance signer requestJwt authorization).result = .error e ∧
      (l.issuance signer requestJwt authorization).events = [] := by
  cases h with
  | subject hs => simp [Ledger.issuance, CredentialService.issue, Collaborators.issue, hs]
  | missing hs =>
    simp [Ledger.issuance, CredentialService.issue, Collaborators.issue, hs,
      AccessToken.resolve_none]
  | header hs hp =>
    simp [Ledger.issuance, CredentialService.issue, Collaborators.issue, hs,
      AccessToken.resolve_of_refused hp]
  | token hs hp hr =>
    simp [Ledger.issuance, CredentialService.issue, Collaborators.issue, hs, resolve_eq hl hp, hr]
  | record hs hp hr hc =>
    simp [Ledger.issuance, CredentialService.issue, Collaborators.issue, hs, resolve_eq hl hp, hr,
      Collaborators.signedFor, checkOf_eq hl, hc, bind, Except.bind]
  | assembly hs hp hr hc ha =>
    simp [Ledger.issuance, CredentialService.issue, Collaborators.issue, hs, resolve_eq hl hp, hr,
      Collaborators.signedFor, checkOf_eq hl, hc, ha, bind, Except.bind]

private theorem result_eq_error_iff {e : ServiceError} (hl : Reflects l.memory ops) :
    (l.issuance signer requestJwt authorization).result = .error e ↔
      Refused ops requestJwt authorization e := by
  refine ⟨fun h => ?_, fun hrefused => (issuance_of_refused hl hrefused).1⟩
  rcases entitled_or_refused ops requestJwt authorization with
    ⟨subject, resourceId, vc, hentitled⟩ | ⟨e', hrefused⟩
  · rw [issuance_of_entitled hl hentitled] at h
    cases h
  · rw [(issuance_of_refused hl hrefused).1] at h
    obtain rfl := Except.error.inj h
    exact hrefused

private theorem issuance_events (hl : Reflects l.memory ops) :
    (l.issuance signer requestJwt authorization).events =
      match (l.issuance signer requestJwt authorization).result with
      | .ok _ => [.credentialIssued]
      | .error _ => [] := by
  rcases entitled_or_refused ops requestJwt authorization with
    ⟨subject, resourceId, vc, hentitled⟩ | ⟨e, hrefused⟩
  · rw [issuance_of_entitled hl hentitled]
  · obtain ⟨hresult, hevents⟩ := issuance_of_refused hl hrefused
    rw [hresult, hevents]

end Issuance

/-- The payload of a token reads as the document of a credential for a subject, and as no more. -/
def Attests (jwt subject : String) (vc : Credential) : Prop :=
  ∃ header payload signature,
    Text.segments '.' jwt.toList = [header, (Base64Url.encode payload).toList, signature] ∧
    Json.readBytes? payload = some (CredentialClaims.document ⟨subject, vc⟩)

private theorem signCredential_attests (signer : CredentialSigner) (subject : String)
    (vc : Credential) : Attests (signer.signCredential ⟨subject, vc⟩) subject vc := by
  obtain ⟨signature, hsegments⟩ := Jwt.segments_sign (RsaSignature.sign signer.key) signer.header
    (CredentialClaims.toJson ⟨subject, vc⟩)
  have hread := Json.readBytes?_encode_print (CredentialClaims.isExact_toJson ⟨subject, vc⟩)
  have hdocument := CredentialClaims.toJson_eq_document ⟨subject, vc⟩
  exact ⟨_, _, _, hsegments, hread.trans (congrArg some hdocument)⟩

/-- After any history of stores that were empty at first, a credential is issued exactly to who is
entitled by it, and it is about the last check of the very resource that the token leads to. Else
the error is that of the first stage that fails. Either way the stores stay as they are, and an
event is sent for a credential and for nothing else, whatever the sink makes of it. -/
theorem issuance_after_history (signer : CredentialSigner) (ops : List Operation)
    (requestJwt : String) (authorization : Option String) :
    ((∃ issued, ((replay signer ops).issuance signer requestJwt authorization).result =
        .ok issued) ↔
      ∃ subject resourceId vc, Entitled ops requestJwt authorization subject resourceId vc) ∧
    (∀ issued, ((replay signer ops).issuance signer requestJwt authorization).result =
        .ok issued →
      ∃ subject vc, Entitled ops requestJwt authorization subject issued.resourceId vc ∧
        vc.resourceId = issued.resourceId ∧ Attests issued.jwt subject vc) ∧
    (∀ e, ((replay signer ops).issuance signer requestJwt authorization).result = .error e ↔
      Refused ops requestJwt authorization e) ∧
    ∀ now sink,
      (replay signer (ops ++ [.issue requestJwt authorization now sink])).memory =
        (replay signer ops).memory ∧
      (replay signer (ops ++ [.issue requestJwt authorization now sink])).trail.attempted =
        (replay signer ops).trail.attempted ++
          match ((replay signer ops).issuance signer requestJwt authorization).result with
          | .ok _ => [.of .credentialIssued now]
          | .error _ => [] := by
  have hl := replay_reflects signer ops
  have hsuccess {issued : IssuedCredential}
      (h : ((replay signer ops).issuance signer requestJwt authorization).result = .ok issued) :
      ∃ subject vc, Entitled ops requestJwt authorization subject issued.resourceId vc ∧
        vc.resourceId = issued.resourceId ∧ Attests issued.jwt subject vc := by
    rcases entitled_or_refused ops requestJwt authorization with
      ⟨subject, resourceId, vc, hentitled⟩ | ⟨e, hrefused⟩
    · rw [issuance_of_entitled hl hentitled] at h
      obtain rfl := Except.ok.inj h
      obtain ⟨check, hc, ha⟩ := hentitled.check
      exact ⟨subject, vc, hentitled, (assemble_resourceId ha).trans (latestCheck_resourceId hc),
        signCredential_attests signer subject vc⟩
    · rw [(issuance_of_refused hl hrefused).1] at h
      cases h
  refine ⟨⟨?_, ?_⟩, fun issued => hsuccess, fun e => result_eq_error_iff hl,
    fun now sink => ⟨?_, ?_⟩⟩
  · rintro ⟨issued, h⟩
    obtain ⟨subject, vc, hentitled, -⟩ := hsuccess h
    exact ⟨subject, issued.resourceId, vc, hentitled⟩
  · rintro ⟨subject, resourceId, vc, hentitled⟩
    exact ⟨_, by rw [issuance_of_entitled hl hentitled]⟩
  · rw [replay_append_singleton]
    rfl
  · rw [replay_append_singleton]
    refine (Audit.foldl_emit_attempted sink now _ _).trans (congrArg _ ?_)
    rw [issuance_events hl]
    cases ((replay signer ops).issuance signer requestJwt authorization).result <;> rfl

def sampleCheck : IdentityCheck :=
  IdentityCheck.saying CredentialSigner.sampleClaims.vc ["Mary"] "Watson" none

def sampleCredential : Credential :=
  { CredentialSigner.sampleClaims.vc with
    subject := { CredentialSigner.sampleClaims.vc.subject with
      nameParts := [⟨"Mary", .givenName, .openEnded⟩, ⟨"Watson", .familyName, .openEnded⟩] } }

/-- A token that is mapped twice, and a record that was not complete at first. -/
def sampleHistory : List Operation :=
  [.addToken "abc" "other", .addCheck { sampleCheck with score := none },
    .addToken "abc" sampleCheck.resourceId, .addCheck sampleCheck]

def sampleSigner : CredentialSigner := ⟨CredentialSigner.sampleKey, some "vc-key-1"⟩

/-- A token of the signer names its own subject. -/
def sampleRequest : String := sampleSigner.signCredential CredentialSigner.sampleClaims

private theorem sampleHistory_entitles : Entitled sampleHistory sampleRequest (some "Bearer abc")
    CredentialSigner.sampleClaims.sub sampleCheck.resourceId sampleCredential where
  subject := requestSubject_eq_ok_iff.mpr (names_signCredential sampleSigner (by decide))
  resource := ⟨"Bearer abc", "abc", rfl, rfl, rfl⟩
  check := ⟨sampleCheck, by decide, rfl⟩

/-- The credential that is issued is about the record that is complete, under the second mapping. -/
theorem sampleHistory_issues : ∃ issued,
    ((replay sampleSigner sampleHistory).issuance sampleSigner sampleRequest
        (some "Bearer abc")).result = .ok issued ∧
      issued.resourceId = sampleCheck.resourceId ∧
      Attests issued.jwt CredentialSigner.sampleClaims.sub sampleCredential := by
  obtain ⟨⟨-, hissues⟩, hattests, -⟩ := issuance_after_history sampleSigner sampleHistory
    sampleRequest (some "Bearer abc")
  obtain ⟨issued, hissued⟩ := hissues ⟨_, _, _, sampleHistory_entitles⟩
  obtain ⟨subject, vc, hentitled, -, hdocument⟩ := hattests issued hissued
  obtain ⟨rfl, hid, rfl⟩ := hentitled.unique sampleHistory_entitles
  exact ⟨issued, hissued, hid, hdocument⟩

end CredentialIssuer.Server
