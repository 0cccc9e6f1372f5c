import CredentialIssuer.Http.Authorization
import CredentialIssuer.Proofs.Text.Form

/-! What a query asks for: it has to name a client and to hold a request object, each of them once
and neither of them empty. -/
namespace CredentialIssuer.Http

def valuesOf (name : String) (pairs : List (String × String)) : List String :=
  (pairs.filter fun p => p.1 = name).map Prod.snd

/-- A query with one client id and one request object. -/
structure Asks (request : Request) (clientId compact : String) : Prop where
  clientIds : valuesOf "client_id" (Form.pairs request.query) = [clientId]
  compacts : valuesOf "request" (Form.pairs request.query) = [compact]
  clientId_ne : clientId ≠ ""
  compact_ne : compact ≠ ""

/-- A query asks for one client and one request object at the most. -/
theorem Asks.unique {request : Request} {a b c d : String} (h : Asks request a b)
    (h' : Asks request c d) : a = c ∧ b = d := by
  have hclient := h.clientIds.symm.trans h'.clientIds
  have hcompact := h.compacts.symm.trans h'.compacts
  exact ⟨List.singleton_inj.mp hclient, List.singleton_inj.mp hcompact⟩

/-- A form of these two fields asks. -/
theorem asks_of_pairs {request : Request} {clientId compact : String}
    (hquery : request.query =
      Form.pair "client_id" clientId ++ '&' :: Form.pair "request" compact)
    (hclient : clientId ≠ "") (hcompact : compact ≠ "") : Asks request clientId compact := by
  have hpairs : Form.pairs request.query = [("client_id", clientId), ("request", compact)] := by
    rw [hquery, Form.pairs_append, Form.pairs_pair, Form.pairs_pair]
    rfl
  exact ⟨by simp [valuesOf, hpairs], by simp [valuesOf, hpairs], hclient, hcompact⟩

namespace AuthorizationEndpoint

private theorem valuesOf_cons (name first value : String) (rest : List (String × String)) :
    valuesOf name ((first, value) :: rest) =
      if first = name then value :: valuesOf name rest else valuesOf name rest := by
  by_cases h : first = name <;> simp [valuesOf, h]

/-- What was taken before is followed by what the rest of the query gives. A second value for a name
is the error, so that no more than one can be left. -/
private theorem foldlM_take_eq_ok_iff {pairs : List (String × String)} {p q : Parameters} :
    pairs.foldlM take p = .ok q ↔
      p.clientId.toList ++ valuesOf "client_id" pairs = q.clientId.toList ∧
      p.request.toList ++ valuesOf "request" pairs = q.request.toList := by
  induction pairs generalizing p with
  | nil =>
    obtain ⟨a, b⟩ := p
    obtain ⟨c, d⟩ := q
    cases a <;> cases b <;> cases c <;> cases d <;>
      simp [valuesOf, pure, Except.pure]
  | cons pair rest ih =>
    obtain ⟨name, value⟩ := pair
    rw [List.foldlM_cons, take]
    split
    · rename_i hname
      obtain rfl : name = "client_id" := hname
      rw [valuesOf_cons, if_pos rfl, valuesOf_cons, if_neg (by decide)]
      split
      · rename_i first hfirst
        cases q.clientId <;> simp [hfirst, bind, Except.bind]
      · rename_i hfirst
        simp [bind, Except.bind, ih, hfirst]
    · rename_i hclient
      split
      · rename_i hname
        obtain rfl : name = "request" := hname
        rw [valuesOf_cons, if_neg (by decide), valuesOf_cons, if_pos rfl]
        split
        · rename_i first hfirst
          cases q.request <;> simp [hfirst, bind, Except.bind]
        · rename_i hfirst
          simp [bind, Except.bind, ih, hfirst]
      · rename_i hrequest
        simp only at hclient hrequest
        simp [bind, Except.bind, ih, valuesOf, hclient, hrequest]

private theorem foldlM_take_error {pairs : List (String × String)} {p : Parameters}
    {response : Response} (h : pairs.foldlM take p = .error response) :
    ∃ name, response = repeated name := by
  induction pairs generalizing p with
  | nil => cases h
  | cons pair rest ih =>
    rw [List.foldlM_cons] at h
    cases ht : take p pair with
    | ok q =>
      rw [ht] at h
      exact ih h
    | error r =>
      rw [ht] at h
      obtain rfl : r = response := Except.error.inj h
      rw [take] at ht
      split at ht
      · split at ht
        · exact ⟨pair.1, (Except.error.inj ht).symm⟩
        · cases ht
      · split at ht
        · split at ht
          · exact ⟨pair.1, (Except.error.inj ht).symm⟩
          · cases ht
        · cases ht

private theorem nonempty_eq_some_iff {text : Option String} {s : String} :
    nonempty text = some s ↔ text = some s ∧ s ≠ "" := by
  simp [nonempty, Option.filter_eq_some_iff]

/-- A query that asks is answered by what comes of the request object, any other is refused. -/
theorem answer_cases (e : AuthorizationEndpoint) (draw : Draw) (now : Timestamp)
    (request : Request) :
    (∃ clientId compact, Asks request clientId compact ∧
      e.answer draw now request = e.authorize draw now clientId compact) ∨
    ((∀ clientId compact, ¬Asks request clientId compact) ∧
      ∃ response, e.answer draw now request = .plain response ∧
        (response = ofServiceError missingParameters ∨ ∃ name, response = repeated name)) := by
  rw [answer]
  cases hp : Parameters.ofQuery request.query with
  | error response =>
    refine .inr ⟨fun clientId compact h => ?_, response, rfl, .inr (foldlM_take_error hp)⟩
    have hok : Parameters.ofQuery request.query = .ok ⟨some clientId, some compact⟩ :=
      foldlM_take_eq_ok_iff.mpr ⟨h.clientIds, h.compacts⟩
    rw [hp] at hok
    cases hok
  | ok p =>
    obtain ⟨hclients, hrequests⟩ := foldlM_take_eq_ok_iff.mp hp
    change valuesOf _ (Form.pairs request.query) = _ at hclients hrequests
    simp only
    split
    · rename_i clientId compact hc hr
      obtain ⟨hc, hcne⟩ := nonempty_eq_some_iff.mp hc
      obtain ⟨hr, hrne⟩ := nonempty_eq_some_iff.mp hr
      exact .inl ⟨clientId, compact, ⟨by rw [hclients, hc]; rfl, by rw [hrequests, hr]; rfl, hcne,
        hrne⟩, rfl⟩
    · rename_i hnone
      refine .inr ⟨fun clientId compact h => ?_, _, rfl, .inl rfl⟩
      have hc : p.clientId = some clientId := by
        rw [h.clientIds] at hclients
        simpa using hclients.symm
      have hr : p.request = some compact := by
        rw [h.compacts] at hrequests
        simpa using hrequests.symm
      exact hnone clientId compact (nonempty_eq_some_iff.mpr ⟨hc, h.clientId_ne⟩)
        (nonempty_eq_some_iff.mpr ⟨hr, h.compact_ne⟩)

end AuthorizationEndpoint

end CredentialIssuer.Http
