import CredentialIssuer.Audit
import CredentialIssuer.Proofs.Http.Redirection
import CredentialIssuer.Proofs.Keyed
import CredentialIssuer.Server.Memory

/-! Authorization requests served one after the other over one store of codes. Each request that is
valid leaves one item and one event and gets its code delivered, and no other request leaves a
trace. -/
namespace CredentialIssuer.Server

open RequestObject Http

/-- A request with all that meets it: what is drawn for it, the time, and what the store of codes
and the audit sink say. -/
structure Arrival where
  request : Request
  draw : Draw
  now : Timestamp
  keep : AuthorizationCode.Item → Except ServiceError Unit
  sink : Audit.Sink

namespace Arrival

variable (v : Validator) (a : Arrival)

def answer : Answer := AuthorizationEndpoint.answer ⟨v, a.keep⟩ a.draw a.now a.request

def outcome? : Option Outcome :=
  match valuesOf "client_id" (Form.pairs a.request.query),
    valuesOf "request" (Form.pairs a.request.query) with
  | [clientId], [compact] =>
    if clientId ≠ "" ∧ compact ≠ "" then some (v.validateAt compact clientId a.now) else none
  | _, _ => none

def granted? : Option ValidatedRequest :=
  match a.outcome? v with
  | some (.valid valid) => some valid
  | _ => none

def itemFor (valid : ValidatedRequest) : AuthorizationCode.Item :=
  AuthorizationCode.Store.itemFor a.draw.code a.draw.resourceId valid.redirectUri a.now

/-- The item of a valid request, once the store takes it. -/
def item? : Option AuthorizationCode.Item :=
  (a.granted? v).bind fun valid =>
    match a.keep (a.itemFor valid) with
    | .ok () => some (a.itemFor valid)
    | .error _ => none

end Arrival

def serve (v : Validator) (l : Ledger) (a : Arrival) : Ledger := l.after a.sink a.now (a.answer v)

def run (v : Validator) (l : Ledger) (arrivals : List Arrival) : Ledger :=
  arrivals.foldl (serve v) l

namespace Arrival

variable {v : Validator} {a : Arrival}

/-- There is an outcome for each query that asks. -/
theorem outcome?_eq_some_iff {outcome : Outcome} :
    a.outcome? v = some outcome ↔ ∃ clientId compact, Asks a.request clientId compact ∧
      v.validateAt compact clientId a.now = outcome := by
  unfold outcome?
  constructor
  · intro h
    split at h
    · rename_i clientId compact hclient hcompact
      split at h
      · rename_i hne
        exact ⟨clientId, compact, ⟨hclient, hcompact, hne.1, hne.2⟩, Option.some.inj h⟩
      · cases h
    · cases h
  · rintro ⟨clientId, compact, h, rfl⟩
    simp only [h.clientIds, h.compacts]
    rw [if_pos ⟨h.clientId_ne, h.compact_ne⟩]

private theorem granted?_eq_some_iff {valid : ValidatedRequest} :
    a.granted? v = some valid ↔ ∃ clientId compact, Asks a.request clientId compact ∧
      v.validateAt compact clientId a.now = .valid valid := by
  rw [← outcome?_eq_some_iff, granted?]
  split
  · rename_i found h
    simp [h]
  · rename_i h
    simpa using h valid

/-- The answer follows from the outcome alone. -/
theorem answer_eq {clientId compact : String} (h : Asks a.request clientId compact) :
    a.answer v = AuthorizationEndpoint.authorize ⟨v, a.keep⟩ a.draw a.now clientId compact := by
  rcases AuthorizationEndpoint.answer_cases ⟨v, a.keep⟩ a.draw a.now a.request with
    ⟨c, t, hasks, heq⟩ | ⟨hnone, -⟩
  · obtain ⟨rfl, rfl⟩ := h.unique hasks
    exact heq
  · exact absurd h (hnone _ _)

private theorem item?_eq_some_iff {item : AuthorizationCode.Item} :
    a.item? v = some item ↔ ∃ valid, a.granted? v = some valid ∧
      a.keep (a.itemFor valid) = .ok () ∧ item = a.itemFor valid := by
  rw [item?, Option.bind_eq_some_iff]
  constructor
  · rintro ⟨valid, hvalid, h⟩
    split at h
    · rename_i hkeep
      exact ⟨valid, hvalid, hkeep, (Option.some.inj h).symm⟩
    · cases h
  · rintro ⟨valid, hvalid, hkeep, rfl⟩
    exact ⟨valid, hvalid, by rw [hkeep]⟩

/-- A valid request whose item is kept: its code is delivered to the address of its client. -/
private theorem answer_of_item {valid : ValidatedRequest} (hvalid : a.granted? v = some valid)
    (hkeep : a.keep (a.itemFor valid) = .ok ()) :
    ∃ url location span, a.answer v =
        ⟨.found location, span, some (a.itemFor valid), [.authorizationRequested]⟩ ∧
      Redirect.Carries url (Redirect.successPairs a.draw.code valid.claims.state) location := by
  obtain ⟨clientId, compact, hasks, hout⟩ := granted?_eq_some_iff.mp hvalid
  obtain ⟨url, hurl⟩ : ∃ url, Url.parse valid.redirectUri = .ok url :=
    parse_of_redirectUri? (by rw [hout]; rfl)
  have hkept : (AuthorizationEndpoint.mk v a.keep).keep (AuthorizationCode.Store.itemFor a.draw.code
      a.draw.resourceId valid.redirectUri a.now) = .ok () := hkeep
  obtain ⟨location, hdeliver, hcarries⟩ := AuthorizationEndpoint.deliver_kept
    ((LogContext.empty.withClientId clientId).span "authorize") hurl hkept
  have hauthorize : a.answer v = AuthorizationEndpoint.deliver ⟨v, a.keep⟩ a.draw a.now
      ((LogContext.empty.withClientId clientId).span "authorize") valid := by
    rw [answer_eq hasks, AuthorizationEndpoint.authorize]
    simp only [hout]
  exact ⟨url, location, _, hauthorize.trans hdeliver, hcarries⟩

private theorem answer_of_keep_error {valid : ValidatedRequest} {error : ServiceError}
    (hvalid : a.granted? v = some valid) (hkeep : a.keep (a.itemFor valid) = .error error) :
    ∃ span, a.answer v = ⟨ofServiceError error, span, none, []⟩ := by
  obtain ⟨clientId, compact, hasks, hout⟩ := granted?_eq_some_iff.mp hvalid
  rw [answer_eq hasks, AuthorizationEndpoint.authorize]
  simp only [hout]
  exact ⟨_, AuthorizationEndpoint.deliver_refused hkeep⟩

private theorem answer_of_recoverable {failure : RecoverableFailure}
    (h : a.outcome? v = some (.recoverable failure)) :
    ∃ url location span, a.answer v = ⟨.found location, span, none, []⟩ ∧
      Redirect.Carries url (Redirect.errorPairs failure.code (some failure.rejection.description)
        failure.state) location := by
  obtain ⟨clientId, compact, hasks, hout⟩ := outcome?_eq_some_iff.mp h
  obtain ⟨url, hurl⟩ : ∃ url, Url.parse failure.redirectUri = .ok url :=
    parse_of_redirectUri? (by rw [hout]; rfl)
  obtain ⟨location, hrecover, hcarries⟩ := AuthorizationEndpoint.recover_eq hurl
  refine ⟨url, location, (LogContext.empty.withClientId clientId).span "authorize", ?_, hcarries⟩
  rw [answer_eq hasks, AuthorizationEndpoint.authorize]
  simp only [hout, hrecover]

/-- A request that leaves no item has no other effect either. -/
private theorem answer_of_no_item (h : a.item? v = none) :
    (a.answer v).stored = none ∧ (a.answer v).events = [] := by
  rcases AuthorizationEndpoint.answer_cases ⟨v, a.keep⟩ a.draw a.now a.request with
    ⟨clientId, compact, hasks, -⟩ | ⟨-, response, heq, -⟩
  · cases ho : v.validateAt compact clientId a.now with
    | valid valid =>
      have hvalid := granted?_eq_some_iff.mpr ⟨clientId, compact, hasks, ho⟩
      cases hkeep : a.keep (a.itemFor valid) with
      | ok =>
        rw [item?_eq_some_iff.mpr ⟨valid, hvalid, hkeep, rfl⟩] at h
        cases h
      | error error =>
        obtain ⟨span, heq⟩ := answer_of_keep_error hvalid hkeep
        simp [heq]
    | recoverable failure =>
      obtain ⟨url, location, span, heq, -⟩ :=
        answer_of_recoverable (outcome?_eq_some_iff.mpr ⟨clientId, compact, hasks, ho⟩)
      simp [heq]
    | fatal failure => simp [answer_eq hasks, AuthorizationEndpoint.authorize, ho]
  · simp [answer, heq, Answer.plain]

end Arrival

variable {v : Validator} {l : Ledger} {a : Arrival}

private theorem serve_of_item {item : AuthorizationCode.Item} (h : a.item? v = some item) :
    serve v l a = ⟨{ l.memory with codes := l.memory.codes.create item },
      l.trail.emit a.sink (.of .authorizationRequested a.now)⟩ := by
  obtain ⟨valid, hvalid, hkeep, rfl⟩ := Arrival.item?_eq_some_iff.mp h
  obtain ⟨_, location, span, heq, -⟩ := Arrival.answer_of_item hvalid hkeep
  rw [serve, heq]
  rfl

private theorem serve_of_no_item (h : a.item? v = none) : serve v l a = l := by
  obtain ⟨hstored, hevents⟩ := Arrival.answer_of_no_item h
  rw [serve, Ledger.after, Memory.after, hstored, hevents]
  rfl

def issuing (v : Validator) (arrivals : List Arrival) : List Arrival :=
  arrivals.filter fun a => (a.item? v).isSome

/-- Over a store that takes all items those are the valid ones. -/
private theorem issuing_of_keep {arrivals : List Arrival}
    (hkeep : ∀ a ∈ arrivals, ∀ item, a.keep item = .ok ()) :
    issuing v arrivals = arrivals.filter fun a => (a.granted? v).isSome := by
  refine List.filter_congr fun a ha => ?_
  cases h : a.granted? v with
  | none => simp [Arrival.item?, h]
  | some valid => simp [Arrival.item?, h, hkeep a ha]

private theorem hashes_eq (v : Validator) (arrivals : List Arrival) :
    (arrivals.filterMap (Arrival.item? v)).map AuthorizationCode.Item.hash =
      (issuing v arrivals).map fun a => AuthorizationCode.hash a.draw.code := by
  induction arrivals with
  | nil => rfl
  | cons a rest ih =>
    cases h : a.item? v with
    | none => simpa [issuing, h] using ih
    | some item =>
      obtain ⟨valid, -, -, rfl⟩ := Arrival.item?_eq_some_iff.mp h
      simpa [issuing, h, Arrival.itemFor, AuthorizationCode.Store.itemFor] using ih

/-- A run adds the items of its arrivals and nothing else, as long as no two have one hash. -/
theorem run_entries {arrivals : List Arrival}
    (hdistinct : ((arrivals.filterMap (Arrival.item? v)).map AuthorizationCode.Item.hash).Nodup)
    (hnew : ∀ item ∈ arrivals.filterMap (Arrival.item? v),
      l.memory.codes.findByHash item.hash = none) :
    (run v l arrivals).memory.codes.entries.Perm (l.memory.codes.entries ++
      (arrivals.filterMap (Arrival.item? v)).map fun item => (item.hash, item)) := by
  induction arrivals generalizing l with
  | nil => simp [run]
  | cons a rest ih =>
    rw [run, List.foldl_cons]
    cases h : a.item? v with
    | none =>
      rw [List.filterMap_cons_none h] at hdistinct hnew ⊢
      rw [serve_of_no_item h]
      exact ih hdistinct hnew
    | some item =>
      rw [List.filterMap_cons_some h] at hdistinct hnew ⊢
      obtain ⟨hfirst, hrest⟩ := List.nodup_cons.mp hdistinct
      have hfresh : ∀ later ∈ rest.filterMap (Arrival.item? v),
          (serve v l a).memory.codes.findByHash later.hash = none := by
        intro later hlater
        have hne : later.hash ≠ item.hash := fun heq =>
          hfirst (heq ▸ List.mem_map_of_mem hlater)
        rw [serve_of_item h]
        exact (Keyed.find?_insert_of_ne _ _ hne).trans (hnew later (List.mem_cons_of_mem _ hlater))
      have hstep : (serve v l a).memory.codes.entries.Perm
          ((item.hash, item) :: l.memory.codes.entries) := by
        rw [serve_of_item h]
        exact Keyed.entries_insert_perm _ _ (hnew item List.mem_cons_self)
      refine (ih hrest hfresh).trans ((hstep.append_right _).trans ?_)
      rw [List.map_cons]
      exact List.perm_middle.symm

/-- Every item has sent its event, delivered or not. -/
theorem run_attempted (arrivals : List Arrival) :
    (run v l arrivals).trail.attempted = l.trail.attempted ++
      (issuing v arrivals).map fun a => .of .authorizationRequested a.now := by
  induction arrivals generalizing l with
  | nil => simp [run, issuing]
  | cons a rest ih =>
    rw [run, List.foldl_cons, ← run, ih]
    cases h : a.item? v with
    | none => simp [serve_of_no_item h, issuing, h]
    | some item => simp [serve_of_item h, issuing, h]

private theorem run_append_singleton (before : List Arrival) (a : Arrival) :
    run v l (before ++ [a]) = serve v (run v l before) a := by
  rw [run, List.foldl_append]
  rfl

/-- The code of a delivered location is read as the last one of its query. -/
private theorem getLast?_code {url : Url} {location code : String} {state : Option String}
    (h : Redirect.Carries url (Redirect.successPairs code state) location) :
    (valuesOf "code" (Form.pairs (Redirect.queryOf location))).getLast? = some code := by
  have hlast : valuesOf "code" (Redirect.successPairs code state) = [code] := by
    cases state <;> simp [valuesOf, Redirect.successPairs, Redirect.optionalPair]
  have happend (a b : List (String × String)) :
      valuesOf "code" (a ++ b) = valuesOf "code" a ++ valuesOf "code" b := by
    simp [valuesOf]
  rw [h.pairs, happend, hlast, List.getLast?_append]
  rfl

/-- The redirect target of a valid request is registered for the client that signed it. -/
private theorem granted?_registered {valid : ValidatedRequest}
    (h : a.granted? v = some valid) :
    ∃ clientId compact signed client claims, Asks a.request clientId compact ∧
      Opens v.keys compact signed ∧ Authentic v.clients clientId signed client claims ∧
      claims.redirectUri = some valid.redirectUri ∧ valid.redirectUri ∈ client.redirectUris := by
  obtain ⟨clientId, compact, hasks, hout⟩ :=
    Arrival.granted?_eq_some_iff.mp h
  have huri : (v.validateAt compact clientId a.now).redirectUri? = some valid.redirectUri := by
    rw [hout]
    rfl
  obtain ⟨signed, client, claims, ho, ha, hfound, -, hregistered⟩ :=
    (validateAt_redirectUri? _ _ _ _ _).mp huri
  exact ⟨clientId, compact, signed, client, claims, hasks, ho, ha, hfound, hregistered⟩

/-- Requests served one after the other, with codes whose hashes differ from one another and from
those in the store. The store gains one item for each valid request that it takes, and as many
events are sent, whatever the sinks say. Each such item is found under the code that the response
delivers, and its redirect target is registered for the client. A refusal of the store is answered
as such, and like any other request it leaves stores and events as they were. -/
theorem run_authorizations (v : Validator) (l : Ledger) (arrivals : List Arrival)
    (hdistinct : ((issuing v arrivals).map fun a => AuthorizationCode.hash a.draw.code).Nodup)
    (hnew : ∀ a ∈ issuing v arrivals,
      l.memory.codes.findByHash (AuthorizationCode.hash a.draw.code) = none) :
    (run v l arrivals).memory.codes.entries.Perm (l.memory.codes.entries ++
      (arrivals.filterMap (Arrival.item? v)).map fun item => (item.hash, item)) ∧
    (run v l arrivals).trail.attempted = l.trail.attempted ++
      (issuing v arrivals).map (fun a => .of .authorizationRequested a.now) ∧
    ((∀ a ∈ arrivals, ∀ item, a.keep item = .ok ()) →
      issuing v arrivals = arrivals.filter fun a => (a.granted? v).isSome) ∧
    ∀ before a after, arrivals = before ++ a :: after →
      (∀ valid, a.granted? v = some valid → a.keep (a.itemFor valid) = .ok () →
        ∃ location item, (a.answer v).response = .found location ∧
          isHeaderText location = true ∧
          (valuesOf "code" (Form.pairs (Redirect.queryOf location))).getLast? = some a.draw.code ∧
          a.item? v = some item ∧ item.hash = AuthorizationCode.hash a.draw.code ∧
          item.redirectUrl = valid.redirectUri ∧
          (∃ clientId compact signed client claims, Asks a.request clientId compact ∧
            Opens v.keys compact signed ∧ Authentic v.clients clientId signed client claims ∧
            claims.redirectUri = some item.redirectUrl ∧
            item.redirectUrl ∈ client.redirectUris) ∧
          (run v l arrivals).memory.codes.find a.draw.code = some item) ∧
      (∀ valid error, a.granted? v = some valid → a.keep (a.itemFor valid) = .error error →
        (a.answer v).response = ofServiceError error ∧
          run v l (before ++ [a]) = run v l before) ∧
      (a.granted? v = none → run v l (before ++ [a]) = run v l before) ∧
      (∀ failure, a.outcome? v = some (.recoverable failure) →
        ∃ location, (a.answer v).response = .found location) := by
  have hitems : ∀ item ∈ arrivals.filterMap (Arrival.item? v),
      l.memory.codes.findByHash item.hash = none := by
    intro item hitem
    have hmem := List.mem_map_of_mem (f := AuthorizationCode.Item.hash) hitem
    rw [hashes_eq] at hmem
    obtain ⟨a, ha, heq⟩ := List.mem_map.mp hmem
    exact heq ▸ hnew a ha
  have hentries := run_entries (by rwa [hashes_eq]) hitems
  refine ⟨hentries, run_attempted arrivals, issuing_of_keep, fun before a after hsplit =>
    ⟨?_, ?_, ?_, ?_⟩⟩
  · intro valid hvalid hkeep
    have hitem : a.item? v = some (a.itemFor valid) :=
      Arrival.item?_eq_some_iff.mpr ⟨valid, hvalid, hkeep, rfl⟩
    obtain ⟨url, location, span, heq, hcarries⟩ := Arrival.answer_of_item hvalid hkeep
    refine ⟨location, a.itemFor valid, by rw [heq], hcarries.headerText, getLast?_code hcarries,
      hitem, rfl, rfl, granted?_registered hvalid, ?_⟩
    have hmem : a.itemFor valid ∈ arrivals.filterMap (Arrival.item? v) :=
      List.mem_filterMap.mpr ⟨a, by simp [hsplit], hitem⟩
    refine Keyed.find?_eq_some_of_mem _ (hentries.mem_iff.mpr (List.mem_append_right _ ?_))
    exact List.mem_map.mpr ⟨a.itemFor valid, hmem, rfl⟩
  · intro valid error hvalid hkeep
    obtain ⟨span, heq⟩ := Arrival.answer_of_keep_error hvalid hkeep
    refine ⟨by rw [heq], ?_⟩
    rw [run_append_singleton, serve_of_no_item (by simp [Arrival.item?, hvalid, hkeep])]
  · intro hnone
    rw [run_append_singleton, serve_of_no_item (by rw [Arrival.item?, hnone]; rfl)]
  · intro failure hfailure
    obtain ⟨url, location, span, heq, -⟩ := Arrival.answer_of_recoverable hfailure
    exact ⟨location, by rw [heq]⟩

/-- The sample request, over a store that takes all items and a sink that is down. -/
private def sampleArrival (code : String) : Arrival where
  request := ⟨"GET", "/authorization", Form.pair "client_id" "app" ++
    '&' :: Form.pair "request" sampleEnvelope.compact, [], []⟩
  draw := ⟨code, "resource"⟩
  now := ⟨0, 0⟩
  keep _ := .ok ()
  sink _ := .error (.storage "down")

private def sampleArrivals : List Arrival := [sampleArrival "first", sampleArrival "second"]

private def sampleLedger : Ledger :=
  { Ledger.empty with
    memory := { Memory.empty with codes := .persist .empty "third" "resource" "app:back" ⟨0, 0⟩ } }

private theorem sampleArrival_granted (code : String) :
    ((sampleArrival code).granted? sampleValidator).isSome = true := by
  obtain ⟨claims, hvalid⟩ := validateAt_sample
  have hasks : Asks (sampleArrival code).request "app" sampleEnvelope.compact :=
    asks_of_pairs rfl (by decide) (Envelope.compact_ne_empty _)
  rw [Arrival.granted?_eq_some_iff.mpr ⟨"app", sampleEnvelope.compact, hasks, hvalid⟩]
  rfl

private theorem issuing_sample : issuing sampleValidator sampleArrivals = sampleArrivals := by
  rw [issuing_of_keep (by simp [sampleArrivals, sampleArrival]), List.filter_eq_self]
  simp [sampleArrivals, sampleArrival_granted]

/-- The sample request, made twice, leaves two codes beside the one that was there. -/
theorem run_authorizations_two_codes :
    issuing sampleValidator sampleArrivals = sampleArrivals ∧
    ((issuing sampleValidator sampleArrivals).map fun a =>
      AuthorizationCode.hash a.draw.code).Nodup ∧
    (∀ a ∈ issuing sampleValidator sampleArrivals,
      sampleLedger.memory.codes.findByHash (AuthorizationCode.hash a.draw.code) = none) ∧
    (run sampleValidator sampleLedger sampleArrivals).memory.codes.entries.Perm
      (sampleLedger.memory.codes.entries ++
        (sampleArrivals.filterMap (Arrival.item? sampleValidator)).map fun item =>
          (item.hash, item)) ∧
    (run sampleValidator sampleLedger sampleArrivals).trail.attempted =
      [.of .authorizationRequested ⟨0, 0⟩, .of .authorizationRequested ⟨0, 0⟩] := by
  have hdistinct : ((issuing sampleValidator sampleArrivals).map fun a =>
      AuthorizationCode.hash a.draw.code).Nodup := by
    rw [issuing_sample]
    decide +kernel
  have hnew : ∀ a ∈ issuing sampleValidator sampleArrivals,
      sampleLedger.memory.codes.findByHash (AuthorizationCode.hash a.draw.code) = none := by
    rw [issuing_sample]
    simp only [sampleArrivals, List.forall_mem_cons]
    decide +kernel
  obtain ⟨hentries, hattempted, -⟩ :=
    run_authorizations sampleValidator sampleLedger sampleArrivals hdistinct hnew
  refine ⟨issuing_sample, hdistinct, hnew, hentries, ?_⟩
  rw [hattempted, issuing_sample]
  rfl

end CredentialIssuer.Server
