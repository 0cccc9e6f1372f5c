import CredentialIssuer.IdentityCheck
import CredentialIssuer.Proofs.Keyed
import Mathlib.Data.List.Nodup

/-! What is read as a record: objects that hold each field at most once, among them those of a
printed record, and arrays of no more fields than there are. -/
namespace CredentialIssuer.Json

/-- Known names in the order of declaration make a record. -/
theorem namedRecord?_eq {names : List String} {members : Members}
    (h : (members.map (·.1)).Sublist names) (hnodup : names.Nodup) :
    namedRecord? names members = some ⟨false, members⟩ := by
  have hknown : members.filter (fun m => names.contains m.1) = members := by
    rw [List.filter_eq_self]
    exact fun m hm => List.contains_iff_mem.mpr (h.subset (List.mem_map_of_mem hm))
  simp only [namedRecord?, hknown]
  exact if_pos (hnodup.sublist h)

/-- Members of other names are skipped. -/
theorem namedRecord?_append {names : List String} {others : Members}
    (h : ∀ m ∈ others, m.1 ∉ names) (members : Members) :
    namedRecord? names (members ++ others) = namedRecord? names members := by
  have hothers : others.filter (fun m => names.contains m.1) = [] := by
    rw [List.filter_eq_nil_iff]
    exact fun m hm hname => h m hm (List.contains_iff_mem.mp hname)
  simp only [namedRecord?, List.filter_append, hothers, List.append_nil]

/-- The members that a record does not know come out as they went in. -/
theorem others_append {names : List String} {members others : Members}
    (hmembers : ∀ m ∈ members, m.1 ∈ names) (hothers : ∀ m ∈ others, m.1 ∉ names) :
    (members ++ others).filter (fun m => !names.contains m.1) = others := by
  rw [List.filter_append, List.filter_eq_nil_iff.mpr fun m hm => by simpa using hmembers m hm,
    List.filter_eq_self.mpr fun m hm => by simpa using hothers m hm, List.nil_append]

section Spelling

/-- The values of all members of a name, in the order written. -/
def Members.valuesOf (members : Members) (name : String) : List Json :=
  (members.filter (·.1 = name)).map (·.2)

def Members.HasText (members : Members) (name : String) : Prop :=
  ∃ text, members.valuesOf name = [.string text]

def Members.MayHaveText (members : Members) (name : String) : Prop :=
  members.valuesOf name = [] ∨ members.valuesOf name = [.null] ∨ members.HasText name

/-- The two forms of a record with the members that they stand for. -/
inductive Spells (names : List String) : Json → Members → Prop where
  | byName (members : Members) : Spells names (.object members) members
  | byPosition (items : List Json) (h : items.length ≤ names.length) :
    Spells names (.array items) (names.zip items)

variable {names : List String} {name : String}

/-- Looking a name up finds the first of its values. -/
theorem lookup_eq_head? (members : Members) (name : String) :
    members.lookup name = (members.valuesOf name).head? := by
  induction members with
  | nil => rfl
  | cons m rest ih =>
    rw [Keyed.lookup_cons_ite, ih, Members.valuesOf, Members.valuesOf]
    by_cases h : m.1 = name
    · rw [if_pos h.symm, List.filter_cons_of_pos (by simpa using h), List.map_cons, List.head?_cons]
    · rw [if_neg (Ne.symm h), List.filter_cons_of_neg (by simpa using h)]

private theorem length_valuesOf (members : Members) (name : String) :
    (members.valuesOf name).length = (members.map (·.1)).count name := by
  rw [Members.valuesOf, List.length_map, ← List.countP_eq_length_filter, List.count_eq_countP,
    List.countP_map]
  exact List.countP_congr fun m _ => by simp

private theorem valuesOf_known (h : name ∈ names) (members : Members) :
    Members.valuesOf (members.filter fun m => names.contains m.1) name = members.valuesOf name := by
  rw [Members.valuesOf, Members.valuesOf, List.filter_filter]
  congr 1
  apply List.filter_congr
  intro m _
  by_cases hm : m.1 = name
  · simp [hm, h]
  · simp [hm]

/-- No field is given twice. -/
private theorem nodup_known_iff (members : Members) :
    ((members.filter fun m => names.contains m.1).map (·.1)).Nodup ↔
      ∀ name ∈ names, (members.valuesOf name).length ≤ 1 := by
  rw [List.nodup_iff_count_le_one]
  constructor
  · intro h name hname
    rw [← valuesOf_known hname, length_valuesOf]
    exact h name
  · intro h name
    by_cases hname : name ∈ names
    · rw [← length_valuesOf, valuesOf_known hname]
      exact h name hname
    · have hnone : name ∉ (members.filter fun m => names.contains m.1).map (·.1) := by
        simp [hname]
      rw [List.count_eq_zero.mpr hnone]
      exact Nat.zero_le 1

private theorem names_zip_sublist (names : List String) (items : List Json) :
    ((names.zip items).map (·.1)).Sublist names := by
  induction names generalizing items with
  | nil => exact List.Sublist.refl []
  | cons name names ih =>
    cases items with
    | nil => exact List.nil_sublist _
    | cons item items => exact (ih items).cons_cons name

private theorem eq_toList_head? {l : List Json} (h : l.length ≤ 1) : l = l.head?.toList := by
  match l with
  | [] => rfl
  | [a] => rfl

/-- The fields of a record are the values of their names. -/
theorem valuesOf_of_namedRecord? {members : Members} {r : Record}
    (h : namedRecord? names members = some r) :
    ∀ name ∈ names, members.valuesOf name = (r.field? name).toList := by
  intro name hname
  simp only [namedRecord?] at h
  split at h
  · rename_i hknown
    obtain rfl := Option.some.inj h
    rw [Record.field?, lookup_eq_head?, valuesOf_known hname]
    exact eq_toList_head? ((nodup_known_iff members).mp hknown name hname)
  · cases h

/-- Members make a record as long as no known name stands twice. -/
theorem exists_namedRecord? {members : Members}
    (honce : ∀ name ∈ names, (members.valuesOf name).length ≤ 1) :
    ∃ r, namedRecord? names members = some r ∧
      ∀ name ∈ names, members.valuesOf name = (r.field? name).toList := by
  have hr : namedRecord? names members = _ := if_pos ((nodup_known_iff members).mpr honce)
  exact ⟨_, hr, valuesOf_of_namedRecord? hr⟩

/-- A record is read from one of the two forms, and its fields are the values of their names. -/
theorem exists_spells {value : Json} {r : Record} (hnodup : names.Nodup)
    (h : record? names value = some r) :
    ∃ members, Spells names value members ∧
      ∀ name ∈ names, members.valuesOf name = (r.field? name).toList := by
  unfold record? at h
  split at h
  · rename_i members
    exact ⟨members, .byName members, valuesOf_of_namedRecord? h⟩
  · rename_i items
    split at h
    · rename_i hlength
      obtain rfl := Option.some.inj h
      refine ⟨names.zip items, .byPosition items hlength, ?_⟩
      intro name hname
      rw [Record.field?, lookup_eq_head?]
      apply eq_toList_head?
      rw [length_valuesOf]
      exact List.nodup_iff_count_le_one.mp (hnodup.sublist (names_zip_sublist names items)) name
    · cases h
  · cases h

/-- Both forms are read as long as no known name stands twice. -/
theorem Spells.exists_record? {value : Json} {members : Members} (h : Spells names value members)
    (honce : ∀ name ∈ names, (members.valuesOf name).length ≤ 1) :
    ∃ r, record? names value = some r ∧
      ∀ name ∈ names, members.valuesOf name = (r.field? name).toList := by
  cases h with
  | byName => exact exists_namedRecord? honce
  | byPosition items hlength =>
    refine ⟨_, if_pos hlength, ?_⟩
    intro name hname
    rw [Record.field?, lookup_eq_head?]
    exact eq_toList_head? (honce name hname)

/-- A text is read from the string that it is and from nothing else. -/
theorem asText?_eq_some_iff {value : Json} {text : String} :
    value.asText? = some text ↔ value = .string text := by
  cases value <;> simp [asText?]

section Decoded

variable {α : Type} {decode : Json → Option α}

/-- What an optional field is read as. It is nothing where the name does not stand or has null. -/
def Members.Gives (members : Members) (name : String) (decode : Json → Option α) :
    Option α → Prop
  | none => members.valuesOf name = [] ∨ members.valuesOf name = [.null]
  | some a => ∃ value, members.valuesOf name = [value] ∧ value ≠ .null ∧ decode value = some a

/-- A field that is read stands there once at the most. -/
theorem Members.Gives.once {members : Members} {given : Option α}
    (h : members.Gives name decode given) : (members.valuesOf name).length ≤ 1 := by
  cases given with
  | none => rcases h with h | h <;> simp [h]
  | some a =>
    obtain ⟨value, h, -⟩ := h
    simp [h]

/-- A required field is the only value of its name. -/
theorem Record.required_eq_some_iff {members : Members} {r : Record} {a : α}
    (h : members.valuesOf name = (r.field? name).toList) :
    r.required name decode = some a ↔
      ∃ value, members.valuesOf name = [value] ∧ decode value = some a := by
  rw [h, required]
  cases r.field? name with
  | none => simp
  | some value => simp

theorem Record.nullable_eq_some_iff {value : Json} {given : Option α} :
    nullable decode value = some given ↔
      match given with
      | none => value = .null
      | some a => value ≠ .null ∧ decode value = some a := by
  unfold nullable
  split
  · cases given <;> simp
  · cases given <;> simp_all

/-- An optional field may be left out or null. -/
theorem Record.lenient_eq_some_iff {members : Members} {r : Record} {given : Option α}
    (h : members.valuesOf name = (r.field? name).toList) :
    r.lenient name decode = some given ↔ members.Gives name decode given := by
  rw [lenient, withDefault]
  cases hfield : r.field? name with
  | none =>
    rw [hfield] at h
    cases given <;> simp [Members.Gives, h]
  | some value =>
    rw [hfield] at h
    cases given <;> simp [Members.Gives, h, nullable_eq_some_iff]

end Decoded

theorem Members.HasText.once {members : Members} (h : members.HasText name) :
    (members.valuesOf name).length ≤ 1 := by
  obtain ⟨text, h⟩ := h
  simp [h]

theorem Members.MayHaveText.once {members : Members} (h : members.MayHaveText name) :
    (members.valuesOf name).length ≤ 1 := by
  obtain h | h | h := h
  · simp [h]
  · simp [h]
  · exact h.once

/-- A required text is there once, as a text. -/
theorem Record.exists_required_iff {members : Members} {r : Record}
    (h : members.valuesOf name = (r.field? name).toList) :
    (∃ text, r.required name asText? = some text) ↔ members.HasText name := by
  rw [Members.HasText, h, required]
  cases r.field? name with
  | none => simp
  | some value => cases value <;> simp [asText?]

/-- An optional text is there once at the most, as a text or null. -/
theorem Record.exists_lenient_iff {members : Members} {r : Record}
    (h : members.valuesOf name = (r.field? name).toList) :
    (∃ text, r.lenient name asText? = some text) ↔ members.MayHaveText name := by
  rw [Members.MayHaveText, Members.HasText, h, lenient, withDefault]
  cases r.field? name with
  | none => simp
  | some value => cases value <;> simp [nullable, asText?]

end Spelling

section Optional

variable {α : Type} {name : String} {encode : α → Json} {value : Option α}

@[simp] theorem mem_member?_iff {m : String × Json} :
    m ∈ member? name encode value ↔ ∃ a, value = some a ∧ m = (name, encode a) := by
  cases value with
  | none => simp [member?]
  | some a => simp [member?]

/-- An optional member adds its name or nothing. -/
theorem names_member?_sublist : ((member? name encode value).map (·.1)).Sublist [name] := by
  cases value with
  | none => exact List.nil_sublist _
  | some a => exact List.Sublist.refl _

end Optional

namespace Record

variable {α : Type} {r : Record} {name : String} {encode : α → Json} {decode : Json → Option α}
  {value : Option α}

@[simp] theorem field?_cons (positional : Bool) (field : String × Json)
    (rest : List (String × Json)) :
    field? ⟨positional, field :: rest⟩ name =
      if name = field.1 then some field.2 else field? ⟨positional, rest⟩ name :=
  Keyed.lookup_cons_ite field.1 name field.2 rest

@[simp] theorem field?_append (positional : Bool) (given rest : List (String × Json)) :
    field? ⟨positional, given ++ rest⟩ name =
      (field? ⟨positional, given⟩ name).or (field? ⟨positional, rest⟩ name) :=
  List.lookup_append

@[simp] theorem field?_member? (positional : Bool) (other : String) :
    field? ⟨positional, member? other encode value⟩ name =
      if name = other then value.map encode else none := by
  cases value with
  | none => exact (ite_self none).symm
  | some a => exact field?_cons positional (other, encode a) []

/-- A field with a default is read back from an optional member. -/
theorem withDefault_eq_some (hread : ∀ a, decode (encode a) = some a)
    (hfield : r.field? name = value.map encode) :
    r.withDefault name none (fun v => (decode v).map some) = some value := by
  cases value with
  | none => rw [withDefault, hfield, Option.map_none]
  | some a => simp [withDefault, hfield, hread]

/-- What is written, never as null, is read back. -/
structure ReadsBack (encode : α → Json) (decode : Json → Option α) : Prop where
  read : ∀ a, decode (encode a) = some a
  ne_null : ∀ a, encode a ≠ .null

private theorem ReadsBack.nullable (h : ReadsBack encode decode) (a : α) :
    nullable decode (encode a) = some (some a) :=
  nullable_eq_some_iff.mpr ⟨h.ne_null a, h.read a⟩

/-- An optional field is read back where it is left out for nothing. -/
theorem ReadsBack.lenient (h : ReadsBack encode decode)
    (hfield : r.field? name = value.map encode) : r.lenient name decode = some value := by
  rw [Record.lenient, withDefault, hfield]
  cases value with
  | none => rfl
  | some a => exact h.nullable a

/-- An optional field is read back where null stands for nothing. -/
theorem ReadsBack.lenient_orNull (h : ReadsBack encode decode)
    (hfield : r.field? name = some (orNull encode value)) : r.lenient name decode = some value := by
  rw [Record.lenient, withDefault, hfield]
  cases value with
  | none => rfl
  | some a => exact h.nullable a

end Record

end CredentialIssuer.Json
