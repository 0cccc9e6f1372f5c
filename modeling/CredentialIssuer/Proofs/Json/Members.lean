import CredentialIssuer.Proofs.Json.Record
import CredentialIssuer.Proofs.Result

/-! The members of an object by their names: what may stand under a name that is optional, what is
read from there, and what is written there. -/
namespace CredentialIssuer.Json

private theorem isNull_eq_false {value : Json} (h : value ≠ .null) : value.isNull = false := by
  cases value <;> first | rfl | exact absurd rfl h

def IsText (value : Json) : Prop := ∃ text, value = .string text

def IsTexts (value : Json) : Prop := ∃ texts : List String, value = .array (texts.map .string)

/-- A value that is a whole number of 64 bits with a sign. One with a point or an exponent is
not. -/
def IsInt64 (value : Json) : Prop :=
  ∃ n : Int, -2 ^ 63 ≤ n ∧ n < 2 ^ 63 ∧ value = .number (.integer n)

/-- A list of texts is read only from the list of these texts. -/
theorem mapM_asText?_eq_some_iff {items : List Json} {texts : List String} :
    items.mapM asText? = some texts ↔ items = texts.map .string := by
  constructor
  · intro h
    induction items generalizing texts with
    | nil =>
      obtain rfl := Option.some.inj h
      rfl
    | cons item items ih =>
      simp only [List.mapM_cons, Option.bind_eq_bind, Option.bind_eq_some_iff] at h
      obtain ⟨text, htext, rest, hrest, heq⟩ := h
      obtain rfl := Option.some.inj heq
      rw [asText?_eq_some_iff.mp htext, ih hrest, List.map_cons]
  · rintro rfl
    exact mapM_map_eq_some fun text _ => rfl

/-- The name stands there once at the most, with null or with a value as it should be. -/
def Members.MayHave (members : Members) (name : String) (Fits : Json → Prop) : Prop :=
  members.valuesOf name = [] ∨ members.valuesOf name = [.null] ∨
    ∃ value, members.valuesOf name = [value] ∧ Fits value

section Names

variable {name : String} {members : Members}

@[simp] theorem Members.valuesOf_append (a b : Members) :
    Members.valuesOf (a ++ b) name = a.valuesOf name ++ b.valuesOf name := by
  simp [valuesOf]

theorem Members.valuesOf_cons (first : String) (value : Json) (rest : Members) :
    Members.valuesOf ((first, value) :: rest) name =
      if first = name then value :: rest.valuesOf name else rest.valuesOf name := by
  by_cases h : first = name <;> simp [valuesOf, h]

theorem Members.valuesOf_eq_nil (h : ∀ m ∈ members, m.1 ≠ name) : members.valuesOf name = [] := by
  rw [valuesOf, List.filter_eq_nil_iff.mpr (by simpa using h), List.map_nil]

private theorem Members.filter_name_eq (members : Members) (name : String) :
    members.filter (·.1 = name) = (members.valuesOf name).map (name, ·) := by
  rw [valuesOf, List.map_map]
  refine (List.map_id _).symm.trans (List.map_congr_left fun m hm => ?_)
  have hname : m.1 = name := by simpa using (List.mem_filter.mp hm).2
  rw [← hname]
  rfl

/-- Members put together by their names are the members that there were. -/
theorem Members.grouped_perm {names : List String} (hnodup : names.Nodup) (members : Members) :
    ((names.flatMap fun name => members.filter (·.1 = name)) ++
      members.filter (fun m => !names.contains m.1)).Perm members := by
  induction names generalizing members with
  | nil => simp
  | cons name names ih =>
    obtain ⟨hname, hnodup⟩ := List.nodup_cons.mp hnodup
    have hgroups : (names.flatMap fun other => (members.filter (·.1 ≠ name)).filter (·.1 = other)) =
        names.flatMap fun other => members.filter (·.1 = other) := by
      refine List.flatMap_congr fun other hother => ?_
      rw [List.filter_filter]
      refine List.filter_congr fun m _ => ?_
      by_cases hm : m.1 = other
      · have hne : m.1 ≠ name := fun he => hname (he ▸ hm ▸ hother)
        simp [hm, hm ▸ hne]
      · simp [hm]
    have hothers : (members.filter (·.1 ≠ name)).filter (fun m => !names.contains m.1) =
        members.filter (fun m => !(name :: names).contains m.1) := by
      rw [List.filter_filter]
      refine List.filter_congr fun m _ => ?_
      by_cases hm : m.1 = name <;> simp [hm]
    have hrest := ih hnodup (members.filter (·.1 ≠ name))
    rw [hgroups, hothers] at hrest
    rw [List.flatMap_cons, List.append_assoc]
    refine (hrest.append_left _).trans ?_
    simpa using List.filter_append_perm (fun m => decide (m.1 = name)) members

end Names

section Writing

variable {α : Type} {name : String} {decode : Json → Option α} {encode : α → Json}
  {members : Members} {given : Option α}

/-- Each value is written in one way, the only one that it is read from, and never as null. -/
structure Writes (encode : α → Json) (decode : Json → Option α) : Prop where
  read_iff : ∀ {value a}, decode value = some a ↔ value = encode a
  ne_null : ∀ {a}, encode a ≠ .null

/-- Texts are written in one way. -/
theorem writes_text : Writes .string asText? := ⟨asText?_eq_some_iff, nofun⟩

private theorem Writes.gives_some_iff (hw : Writes encode decode) {a : α} :
    members.Gives name decode (some a) ↔ members.valuesOf name = [encode a] := by
  constructor
  · rintro ⟨value, hvalue, -, hread⟩
    rw [hvalue, hw.read_iff.mp hread]
  · intro h
    exact ⟨encode a, h, hw.ne_null, hw.read_iff.mpr rfl⟩

/-- What was written into a field is what the field gives. -/
theorem Writes.gives_of_valuesOf (hw : Writes encode decode)
    (h : members.valuesOf name = (given.map encode).toList) : members.Gives name decode given := by
  cases given with
  | none => exact .inl h
  | some a => exact hw.gives_some_iff.mpr h

/-- A field can be read exactly if it stands at most once, with null or a fitting value. -/
theorem Writes.exists_gives_iff (hw : Writes encode decode) {Fits : Json → Prop}
    (hfits : ∀ value, Fits value ↔ ∃ a, value = encode a) :
    (∃ given, members.Gives name decode given) ↔ members.MayHave name Fits := by
  constructor
  · rintro ⟨given, h⟩
    cases given with
    | none => exact h.imp_right .inl
    | some a => exact .inr (.inr ⟨encode a, hw.gives_some_iff.mp h, (hfits _).mpr ⟨a, rfl⟩⟩)
  · rintro (h | h | ⟨value, hvalue, hvalueFits⟩)
    · exact ⟨none, .inl h⟩
    · exact ⟨none, .inr h⟩
    · obtain ⟨a, rfl⟩ := (hfits value).mp hvalueFits
      exact ⟨some a, hw.gives_some_iff.mpr hvalue⟩

/-- What is written of an optional field is what there was, except for a null. -/
theorem Writes.member?_eq_filter (hw : Writes encode decode) (h : members.Gives name decode given) :
    member? name encode given =
      (members.filter (·.1 = name)).filter fun m => !m.2.isNull := by
  rw [Members.filter_name_eq]
  cases given with
  | none =>
    rcases h with h | h
    · rw [h]
      rfl
    · rw [h]
      rfl
  | some a =>
    rw [hw.gives_some_iff.mp h]
    simp [member?, isNull_eq_false hw.ne_null]

@[simp] theorem valuesOf_member? {other : String} :
    Members.valuesOf (member? other encode given) name =
      if other = name then (given.map encode).toList else [] := by
  cases given with
  | none => simp [member?, Members.valuesOf]
  | some a => by_cases h : other = name <;> simp [member?, Members.valuesOf, h]

end Writing

end CredentialIssuer.Json
