import CredentialIssuer.Proofs.Json.Members
import CredentialIssuer.Proofs.Json.Sorted
import CredentialIssuer.RequestObject.Claims

/-! Claims are read from an object and written to one without a loss, apart from registered claims
that are null. -/
namespace CredentialIssuer.RequestObject

open Json (Members Writes IsText IsTexts IsInt64)

def IsAudience (value : Json) : Prop := IsText value ∨ IsTexts value

private theorem Audience.writes : Writes Audience.toJson Audience.ofJson? where
  read_iff {value aud} := by
    constructor
    · intro h
      unfold Audience.ofJson? at h
      split at h
      · obtain rfl := Option.some.inj h
        rfl
      · obtain ⟨texts, htexts, rfl⟩ := Option.map_eq_some_iff.mp h
        rw [Json.mapM_asText?_eq_some_iff.mp htexts]
        rfl
      · cases h
    · rintro rfl
      cases aud with
      | one text => rfl
      | many texts =>
        rw [Audience.toJson, Audience.ofJson?, Json.mapM_asText?_eq_some_iff.mpr rfl]
        rfl
  ne_null {aud} := by cases aud <;> nofun

private theorem isAudience_iff (value : Json) : IsAudience value ↔ ∃ aud :
    Audience, value = aud.toJson := by
  constructor
  · rintro (⟨text, rfl⟩ | ⟨texts, rfl⟩)
    · exact ⟨.one text, rfl⟩
    · exact ⟨.many texts, rfl⟩
  · rintro ⟨aud, rfl⟩
    cases aud with
    | one text => exact .inl ⟨text, rfl⟩
    | many texts => exact .inr ⟨texts, rfl⟩

namespace Claims

private theorem isInt64_iff (value : Json) : IsInt64 value ↔ ∃ n, value = secondsJson n := by
  constructor
  · rintro ⟨n, hlow, hhigh, rfl⟩
    exact ⟨Int64.ofInt n, by rw [secondsJson, Json.ofInt, Int64.toInt_ofInt_of_le hlow hhigh]⟩
  · rintro ⟨n, rfl⟩
    exact ⟨n.toInt, n.le_toInt, n.toInt_lt, rfl⟩

private theorem writes_seconds : Writes secondsJson seconds? where
  read_iff {value n} := by
    constructor
    · intro h
      obtain ⟨k, hk, rfl⟩ := Option.map_eq_some_iff.mp h
      unfold Json.asInt64? Json.asInt? at hk
      split at hk
      · split at hk
        · rename_i hbounds
          obtain rfl := Option.some.inj hk
          simp only [Json.minInt64, Json.maxInt64] at hbounds
          rw [secondsJson, Json.ofInt, Int64.toInt_ofInt_of_le hbounds.1 (by omega)]
        · cases hk
      · cases hk
    · rintro rfl
      have hlow := n.le_toInt
      have hhigh := n.toInt_lt
      have hbounds : Json.minInt64 ≤ n.toInt ∧ n.toInt ≤ Json.maxInt64 := by
        simp only [Json.minInt64, Json.maxInt64]
        omega
      simp [seconds?, secondsJson, Json.ofInt, Json.asInt64?, Json.asInt?, hbounds]
  ne_null := nofun

/-- Every registered claim is absent, null, or of the type that it has. -/
structure Legible (m : Members) : Prop where
  texts : ∀ name ∈ ["iss", "sub", "response_type", "client_id", "redirect_uri", "state"],
    m.MayHave name IsText
  audience : m.MayHave "aud" IsAudience
  times : ∀ name ∈ ["exp", "nbf", "iat"], m.MayHave name IsInt64

/-- Claims as an object gives them. -/
structure Given (m : Members) (c : Claims) : Prop where
  iss : m.Gives "iss" Json.asText? c.iss
  sub : m.Gives "sub" Json.asText? c.sub
  aud : m.Gives "aud" Audience.ofJson? c.aud
  exp : m.Gives "exp" seconds? c.exp
  nbf : m.Gives "nbf" seconds? c.nbf
  iat : m.Gives "iat" seconds? c.iat
  responseType : m.Gives "response_type" Json.asText? c.responseType
  clientId : m.Gives "client_id" Json.asText? c.clientId
  redirectUri : m.Gives "redirect_uri" Json.asText? c.redirectUri
  state : m.Gives "state" Json.asText? c.state
  additional : c.additional = m.filter fun x => !registered.contains x.1

variable {m : Members} {c : Claims}

private theorem nodup_registered : registered.Nodup := by decide

private theorem Given.once (h : Given m c) : ∀ name ∈ registered, (m.valuesOf name).length ≤ 1 := by
  simp only [registered, List.forall_mem_cons]
  exact ⟨h.iss.once, h.sub.once, h.aud.once, h.exp.once, h.nbf.once, h.iat.once,
    h.responseType.once, h.clientId.once, h.redirectUri.once, h.state.once, by simp⟩

private theorem given_iff {r : Json.Record} (hr : Json.namedRecord? registered m = some r)
    (hfield : ∀ name ∈ registered, m.valuesOf name = (r.field? name).toList) :
    ofMembers? m = some c ↔ Given m c := by
  simp only [registered, List.forall_mem_cons] at hfield
  obtain ⟨hiss, hsub, haud, hexp, hnbf, hiat, hkind, hclient, huri, hstate, -⟩ := hfield
  simp only [ofMembers?, hr, Option.bind_eq_bind, Option.bind_some, Option.bind_eq_some_iff,
    Json.Record.lenient_eq_some_iff hiss, Json.Record.lenient_eq_some_iff hsub,
    Json.Record.lenient_eq_some_iff haud, Json.Record.lenient_eq_some_iff hexp,
    Json.Record.lenient_eq_some_iff hnbf, Json.Record.lenient_eq_some_iff hiat,
    Json.Record.lenient_eq_some_iff hkind, Json.Record.lenient_eq_some_iff hclient,
    Json.Record.lenient_eq_some_iff huri, Json.Record.lenient_eq_some_iff hstate]
  constructor
  · rintro ⟨iss, hiss, sub, hsub, aud, haud, exp, hexp, nbf, hnbf, iat, hiat, kind, hkind, client,
      hclient, uri, huri, state, hstate, heq⟩
    obtain rfl := Option.some.inj heq
    exact ⟨hiss, hsub, haud, hexp, hnbf, hiat, hkind, hclient, huri, hstate, rfl⟩
  · rintro ⟨hiss, hsub, haud, hexp, hnbf, hiat, hkind, hclient, huri, hstate, hadditional⟩
    exact ⟨_, hiss, _, hsub, _, haud, _, hexp, _, hnbf, _, hiat, _, hkind, _, hclient, _, huri, _,
      hstate, by rw [← hadditional]⟩

private theorem ofMembers?_eq_some_iff : ofMembers? m = some c ↔ Given m c := by
  constructor
  · intro h
    obtain ⟨r, hr, -⟩ := Option.bind_eq_some_iff.mp h
    exact (given_iff hr (Json.valuesOf_of_namedRecord? hr)).mp h
  · intro h
    obtain ⟨r, hr, hfield⟩ := Json.exists_namedRecord? h.once
    exact (given_iff hr hfield).mpr h

/-- Claims are read exactly from the objects that give them. -/
theorem ofPayload_eq_ok_iff : ofPayload m = .ok c ↔ Given m c := by
  rw [← ofMembers?_eq_some_iff, ofPayload]
  cases ofMembers? m <;> simp

private theorem exists_given_iff : (∃ c, Given m c) ↔ Legible m := by
  have htext (name : String) : (∃ given, m.Gives name Json.asText? given) ↔ m.MayHave name IsText :=
    Json.writes_text.exists_gives_iff fun _ => Iff.rfl
  have haud : (∃ given, m.Gives "aud" Audience.ofJson? given) ↔ m.MayHave "aud" IsAudience :=
    Audience.writes.exists_gives_iff isAudience_iff
  have htime (name : String) : (∃ given, m.Gives name seconds? given) ↔ m.MayHave name IsInt64 :=
    writes_seconds.exists_gives_iff isInt64_iff
  constructor
  · rintro ⟨c, h⟩
    refine ⟨?_, haud.mp ⟨_, h.aud⟩, ?_⟩
    · simp only [List.forall_mem_cons]
      exact ⟨(htext _).mp ⟨_, h.iss⟩, (htext _).mp ⟨_, h.sub⟩, (htext _).mp ⟨_, h.responseType⟩,
        (htext _).mp ⟨_, h.clientId⟩, (htext _).mp ⟨_, h.redirectUri⟩, (htext _).mp ⟨_, h.state⟩,
        by simp⟩
    · simp only [List.forall_mem_cons]
      exact ⟨(htime _).mp ⟨_, h.exp⟩, (htime _).mp ⟨_, h.nbf⟩, (htime _).mp ⟨_, h.iat⟩, by simp⟩
  · rintro ⟨htexts, haudience, htimes⟩
    simp only [List.forall_mem_cons, ← htext] at htexts
    simp only [List.forall_mem_cons, ← htime] at htimes
    obtain ⟨⟨iss, hiss⟩, ⟨sub, hsub⟩, ⟨kind, hkind⟩, ⟨client, hclient⟩, ⟨uri, huri⟩,
      ⟨state, hstate⟩, -⟩ := htexts
    obtain ⟨aud, haud⟩ := haud.mpr haudience
    obtain ⟨⟨exp, hexp⟩, ⟨nbf, hnbf⟩, ⟨iat, hiat⟩, -⟩ := htimes
    exact ⟨⟨iss, sub, aud, exp, nbf, iat, kind, client, uri, state, _⟩, hiss, hsub, haud, hexp,
      hnbf, hiat, hkind, hclient, huri, hstate, rfl⟩

def withoutNulls (m : Members) : Members :=
  m.filter fun x => !(registered.contains x.1 && x.2.isNull)

private theorem withoutNulls_of_registered {name : String} (h : name ∈ registered) (m : Members) :
    (withoutNulls m).filter (·.1 = name) =
      (m.filter (·.1 = name)).filter fun x => !x.2.isNull := by
  rw [withoutNulls, List.filter_filter, List.filter_filter]
  refine List.filter_congr fun x _ => ?_
  by_cases hx : x.1 = name
  · simp [hx, h]
  · simp [hx]

private theorem withoutNulls_others (m : Members) :
    (withoutNulls m).filter (fun x => !registered.contains x.1) =
      m.filter fun x => !registered.contains x.1 := by
  rw [withoutNulls, List.filter_filter]
  refine List.filter_congr fun x _ => ?_
  cases registered.contains x.1 <;> simp

private theorem Given.members_perm (h : Given m c) : c.members.Perm (withoutNulls m) := by
  have hgroups : (registered.flatMap fun name => (withoutNulls m).filter (·.1 = name)) =
      registered.flatMap fun name => (m.filter (·.1 = name)).filter fun x => !x.2.isNull :=
    List.flatMap_congr fun name hname => withoutNulls_of_registered hname m
  have hgrouped := Members.grouped_perm nodup_registered (withoutNulls m)
  rw [hgroups, withoutNulls_others, ← h.additional] at hgrouped
  have hmembers : c.members = (registered.flatMap fun name =>
      (m.filter (·.1 = name)).filter fun x => !x.2.isNull) ++ c.additional := by
    simp only [registered, List.flatMap_cons, List.flatMap_nil,
      ← Json.writes_text.member?_eq_filter h.iss, ← Json.writes_text.member?_eq_filter h.sub,
      ← Audience.writes.member?_eq_filter h.aud, ← writes_seconds.member?_eq_filter h.exp,
      ← writes_seconds.member?_eq_filter h.nbf, ← writes_seconds.member?_eq_filter h.iat,
      ← Json.writes_text.member?_eq_filter h.responseType,
      ← Json.writes_text.member?_eq_filter h.clientId,
      ← Json.writes_text.member?_eq_filter h.redirectUri,
      ← Json.writes_text.member?_eq_filter h.state, List.append_nil, List.append_assoc, members]
  rwa [hmembers]

section Writing

def registeredMembers (c : Claims) : Members :=
  Json.member? "iss" .string c.iss ++ Json.member? "sub" .string c.sub
    ++ Json.member? "aud" Audience.toJson c.aud ++ Json.member? "exp" secondsJson c.exp
    ++ Json.member? "nbf" secondsJson c.nbf ++ Json.member? "iat" secondsJson c.iat
    ++ Json.member? "response_type" .string c.responseType
    ++ Json.member? "client_id" .string c.clientId
    ++ Json.member? "redirect_uri" .string c.redirectUri ++ Json.member? "state" .string c.state

private theorem members_eq (c : Claims) : c.members = c.registeredMembers ++ c.additional := rfl

private theorem names_registeredMembers_sublist (c : Claims) :
    (c.registeredMembers.map (·.1)).Sublist registered := by
  have hone {α : Type} (name : String) (encode : α → Json) (given : Option α) :
      ((Json.member? name encode given).map (·.1)).Sublist [name] := Json.names_member?_sublist
  simp only [registeredMembers, List.map_append]
  exact (((((((((hone _ _ _).append (hone _ _ _)).append (hone _ _ _)).append (hone _ _ _)).append
    (hone _ _ _)).append (hone _ _ _)).append (hone _ _ _)).append (hone _ _ _)).append
    (hone _ _ _)).append (hone _ _ _)

private theorem valuesOf_members {name : String} (havoids : ∀ x ∈ c.additional, x.1 ∉ registered)
    (h : name ∈ registered) :
    Members.valuesOf c.members name = c.registeredMembers.valuesOf name := by
  have hothers : c.additional.valuesOf name = [] :=
    Json.Members.valuesOf_eq_nil fun x hx he => havoids x hx (he ▸ h)
  rw [members_eq, Json.Members.valuesOf_append, hothers, List.append_nil]

/-- Claims are given by their members in whatever order these stand. -/
private theorem given_of_perm (havoids : ∀ x ∈ c.additional, x.1 ∉ registered)
    (hperm : m.Perm c.members)
    (hadditional : m.filter (fun x => !registered.contains x.1) = c.additional) : Given m c := by
  have hgives {α : Type} {name : String} {encode : α → Json} {decode : Json → Option α}
      {given : Option α} (hw : Writes encode decode) (h : name ∈ registered)
      (hwritten : c.registeredMembers.valuesOf name = (given.map encode).toList) :
      m.Gives name decode given := by
    refine hw.gives_of_valuesOf ?_
    rw [← valuesOf_members havoids h] at hwritten
    have hvalues : (m.valuesOf name).Perm (given.map encode).toList :=
      hwritten ▸ (hperm.filter _).map _
    cases given with
    | none => exact hvalues.eq_nil
    | some value => exact List.perm_singleton.mp hvalues
  exact {
    iss := hgives Json.writes_text (by decide) (by simp [registeredMembers])
    sub := hgives Json.writes_text (by decide) (by simp [registeredMembers])
    aud := hgives Audience.writes (by decide) (by simp [registeredMembers])
    exp := hgives writes_seconds (by decide) (by simp [registeredMembers])
    nbf := hgives writes_seconds (by decide) (by simp [registeredMembers])
    iat := hgives writes_seconds (by decide) (by simp [registeredMembers])
    responseType := hgives Json.writes_text (by decide) (by simp [registeredMembers])
    clientId := hgives Json.writes_text (by decide) (by simp [registeredMembers])
    redirectUri := hgives Json.writes_text (by decide) (by simp [registeredMembers])
    state := hgives Json.writes_text (by decide) (by simp [registeredMembers])
    additional := hadditional.symm }

/-- Nothing in a registered claim is there to be sorted. -/
private theorem sorted_of_mem_registeredMembers {x : String × Json} (h : x ∈ c.registeredMembers) :
    x.2.sorted = x.2 := by
  have haud (aud : Audience) : aud.toJson.sorted = aud.toJson := by
    cases aud with
    | one text => rfl
    | many texts =>
      have hitems : Json.sortedItems (texts.map .string) = texts.map .string := by
        induction texts with
        | nil => rfl
        | cons text texts ih => rw [List.map_cons, Json.sortedItems, ih, Json.sorted]
      rw [Audience.toJson, Json.sorted, hitems]
  simp only [registeredMembers, List.mem_append, Json.mem_member?_iff] at h
  obtain (((((((((h | h) | h) | h) | h) | h) | h) | h) | h) | h) := h <;> obtain ⟨a, -, rfl⟩ := h
  all_goals first | rfl | exact haud a

/-- The members as they are kept, the names of additional ones being others and in order. -/
private theorem sortedMembers_members_perm (havoids : ∀ x ∈ c.additional, x.1 ∉ registered)
    (hmap : c.additional.IsMap) : (Json.sortedMembers c.members).Perm c.members := by
  obtain ⟨hordered, hvalues⟩ := Json.Members.isMap_iff.mp hmap
  have hnames : (c.members.map (·.1)).Nodup := by
    rw [members_eq, List.map_append]
    refine (nodup_registered.sublist c.names_registeredMembers_sublist).append hordered.nodup ?_
    intro name hname hother
    obtain ⟨x, hx, rfl⟩ := List.mem_map.mp hother
    exact havoids x hx (c.names_registeredMembers_sublist.subset hname)
  have hsorted : c.members.map (fun x => (x.1, x.2.sorted)) = c.members := by
    refine (List.map_congr_left fun x hx => ?_).trans (List.map_id _)
    rw [members_eq] at hx
    rcases List.mem_append.mp hx with hx | hx
    · rw [sorted_of_mem_registeredMembers hx]
      rfl
    · rw [hvalues x hx]
      rfl
  exact (Json.sortedMembers_perm hnames).trans (.of_eq hsorted)

private theorem additional_of_members (havoids : ∀ x ∈ c.additional, x.1 ∉ registered) :
    c.members.filter (fun x => !registered.contains x.1) = c.additional := by
  have hown : ∀ x ∈ c.registeredMembers, x.1 ∈ registered := fun x hx =>
    c.names_registeredMembers_sublist.subset (List.mem_map_of_mem hx)
  rw [members_eq, Json.others_append hown havoids]

/-- The claims are read back from their members as they are kept. -/
private theorem given_sortedMembers (havoids : ∀ x ∈ c.additional, x.1 ∉ registered)
    (hmap : c.additional.IsMap) : Given (Json.sortedMembers c.members) c := by
  have hperm := sortedMembers_members_perm havoids hmap
  refine given_of_perm havoids hperm ?_
  have hordered := List.Pairwise.filter (fun x => !registered.contains x.1)
    (Json.sortedMembers_ordered c.members)
  refine Json.Members.Ordered.eq_of_perm hordered (Json.Members.isMap_iff.mp hmap).1 ?_
  exact (hperm.filter _).trans (.of_eq (additional_of_members havoids))

end Writing

private theorem Given.sortedMembers_eq (h : Given m c) (hmap : m.IsMap) :
    Json.sortedMembers c.members = withoutNulls m := by
  have hkept : (withoutNulls m).IsMap := hmap.filter _
  rw [Json.sortedMembers_eq_of_perm h.members_perm (Json.Members.isMap_iff.mp hkept).1.nodup]
  exact hkept

/-- An object is read as claims exactly if each registered claim in it has its type or is null, and
else it is told to be no request object. All other members are kept as they are, and what is written
of the claims is what there was, save the registered claims that are null. What is written of any
claims is read as those claims, as long as no other member has the name of a registered one. -/
theorem claims_survive (m : Members) :
    ((∃ c, ofPayload m = .ok c) ↔ Legible m) ∧
      (∀ failure, ofPayload m = .error failure → failure.reason = .requestObjectInvalid) ∧
      (∀ c, ofPayload m = .ok c →
        c.additional = m.filter (fun x => !registered.contains x.1) ∧
          c.members.Perm (withoutNulls m) ∧
          (m.IsMap → Json.sortedMembers c.members = withoutNulls m)) ∧
      ∀ c : Claims, (∀ x ∈ c.additional, x.1 ∉ registered) →
        ofPayload c.members = .ok c ∧
          (c.additional.IsMap → ofPayload (Json.sortedMembers c.members) = .ok c) := by
  simp only [ofPayload_eq_ok_iff]
  refine ⟨exists_given_iff, ?_, ?_, ?_⟩
  · intro failure h
    unfold ofPayload at h
    split at h
    · cases h
    · obtain rfl := Except.error.inj h
      rfl
  · intro c h
    exact ⟨h.additional, h.members_perm, h.sortedMembers_eq⟩
  · intro c havoids
    exact ⟨given_of_perm havoids (.refl _) (additional_of_members havoids),
      given_sortedMembers havoids⟩

end Claims

end CredentialIssuer.RequestObject
