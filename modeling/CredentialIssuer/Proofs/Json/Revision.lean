import CredentialIssuer.Proofs.Json.Members
import Mathlib.Logic.Relation

/-! Changes to a record that do not change what is read: a null member is left out of an optional
field, a member of another name is put in, or what a field holds is changed in turn. -/
namespace CredentialIssuer.Json

section Revision

/-- One change to a record. The nested fields are those that hold records, each with the changes
that there are to these. -/
inductive Revised (names optional : List String) (nested : List (String × (Json → Json → Prop))) :
    Json → Json → Prop where
  | dropNull (before after : Members) {name : String} (h : name ∈ optional) :
    Revised names optional nested (.object (before ++ (name, .null) :: after))
      (.object (before ++ after))
  | addUnknown (before after : Members) {name : String} (value : Json) (h : name ∉ names) :
    Revised names optional nested (.object (before ++ after))
      (.object (before ++ (name, value) :: after))
  | member (before after : Members) {name : String} {Change : Json → Json → Prop}
    {value value' : Json} (hname : (name, Change) ∈ nested) (h : Change value value') :
    Revised names optional nested (.object (before ++ (name, value) :: after))
      (.object (before ++ (name, value') :: after))
  | item (before after : List Json) {name : String} {Change : Json → Json → Prop}
    {value value' : Json} (hname : (name, Change) ∈ nested) (h : Change value value')
    (hplace : names[before.length]? = some name) :
    Revised names optional nested (.array (before ++ value :: after))
      (.array (before ++ value' :: after))

inductive FieldRevised (optional : List String) (nested : List (String × (Json → Json → Prop)))
    (name : String) : Option Json → Option Json → Prop where
  | kept (field : Option Json) : FieldRevised optional nested name field field
  | dropped (h : name ∈ optional) : FieldRevised optional nested name (some .null) none
  | revised {Change : Json → Json → Prop} {value value' : Json} (hname : (name, Change) ∈ nested)
    (h : Change value value') : FieldRevised optional nested name (some value) (some value')

variable {names optional : List String} {nested : List (String × (Json → Json → Prop))}
  {name : String} {value value' : Json} {members : Members} {r r' : Record}

private theorem Revised.ne_null (h : Revised names optional nested value value') :
    value ≠ .null ∧ value' ≠ .null := by
  cases h <;> exact ⟨nofun, nofun⟩

/-- A member is left out or given another value, and all fields but its own are kept. -/
private theorem exists_fieldRevised {before after : Members} {changed : String}
    {replaced field : Option Json}
    (hchanged : FieldRevised optional nested changed (some value) replaced)
    (h : Members.valuesOf (before ++ (changed, value) :: after) name = field.toList) :
    ∃ field', Members.valuesOf (before ++ (member? changed id replaced ++ after)) name =
        field'.toList ∧ FieldRevised optional nested name field field' := by
  simp only [Members.valuesOf_append, Members.valuesOf_cons, valuesOf_member?] at h ⊢
  by_cases hname : changed = name
  · subst hname
    rw [if_pos rfl] at h
    -- No other member has this name, since the field stands there once at the most.
    cases field with
    | none => simp at h
    | some held =>
      obtain ⟨hbefore, hheld⟩ := List.append_eq_singleton_iff.mp h |>.resolve_right (by simp)
      obtain ⟨rfl, hafter⟩ := List.cons.inj hheld
      exact ⟨replaced, by simp [hbefore, hafter], hchanged⟩
  · rw [if_neg hname] at h ⊢
    exact ⟨field, h, .kept field⟩

private theorem zip_of_place {before : List Json} (h : names[before.length]? = some name)
    (value : Json) (after : List Json) :
    names.zip (before ++ value :: after) =
      (names.take before.length).zip before ++
        (name, value) :: (names.drop (before.length + 1)).zip after := by
  obtain ⟨hlt, rfl⟩ := List.getElem?_eq_some_iff.mp h
  have hnames : names = names.take before.length ++
      names[before.length] :: names.drop (before.length + 1) := by
    rw [← List.drop_eq_getElem_cons, List.take_append_drop]
  conv_lhs => rw [hnames]
  rw [List.zip_append (List.length_take_of_le (Nat.le_of_lt hlt)), List.zip_cons_cons]

private theorem Revised.exists_spells (h : Revised names optional nested value value')
    (hspells : Spells names value members) :
    ∃ members', Spells names value' members' ∧ ∀ name ∈ names, ∀ field : Option Json,
      members.valuesOf name = field.toList →
        ∃ field' : Option Json, members'.valuesOf name = field'.toList ∧
          FieldRevised optional nested name field field' := by
  cases h with
  | dropNull before after hname =>
    cases hspells
    exact ⟨_, .byName _, fun name _ field => exists_fieldRevised (.dropped hname)⟩
  | addUnknown before after _ hunknown =>
    cases hspells
    refine ⟨_, .byName _, ?_⟩
    intro name hname field hfield
    rw [Members.valuesOf_append, Members.valuesOf_cons,
      if_neg (ne_of_mem_of_not_mem hname hunknown).symm, ← Members.valuesOf_append]
    exact ⟨field, hfield, .kept field⟩
  | member before after hname hchange =>
    cases hspells
    exact ⟨_, .byName _, fun name _ field => exists_fieldRevised (.revised hname hchange)⟩
  | item before after hname hchange hplace =>
    cases hspells with
    | byPosition _ hlength =>
      refine ⟨_, .byPosition _ (by simpa using hlength), fun name _ field hfield => ?_⟩
      rw [zip_of_place hplace] at hfield ⊢
      exact exists_fieldRevised (.revised hname hchange) hfield

private theorem Revised.exists_record? (hnodup : names.Nodup)
    (h : Revised names optional nested value value') (hr : record? names value = some r) :
    ∃ r', record? names value' = some r' ∧
      ∀ name ∈ names, FieldRevised optional nested name (r.field? name) (r'.field? name) := by
  obtain ⟨members, hspells, hfield⟩ := Json.exists_spells hnodup hr
  obtain ⟨members', hspells', hrevised⟩ := h.exists_spells hspells
  have honce : ∀ name ∈ names, (members'.valuesOf name).length ≤ 1 := by
    intro name hname
    obtain ⟨field', hfield', -⟩ := hrevised name hname _ (hfield name hname)
    rw [hfield']
    cases field' <;> simp
  obtain ⟨r', hr', hread⟩ := hspells'.exists_record? honce
  refine ⟨r', hr', ?_⟩
  intro name hname
  obtain ⟨field', hfield', hkept⟩ := hrevised name hname _ (hfield name hname)
  obtain rfl : field' = r'.field? name := by
    simpa using congrArg List.head? (hfield'.symm.trans (hread name hname))
  exact hkept

/-- What is read of a value is read of it still after a change, which neither begins nor ends with
null. -/
structure Keeps {α : Type} (decode : Json → Option α) (Change : Json → Json → Prop) : Prop where
  ne_null : ∀ {value value'}, Change value value' → value ≠ .null ∧ value' ≠ .null
  reads : ∀ {value value' a}, Change value value' → decode value = some a → decode value' = some a

section Fields

variable {α : Type} {decode : Json → Option α}

/-- A required field that is not left out is read as before. -/
theorem FieldRevised.required {a : α}
    (h : FieldRevised optional nested name (r.field? name) (r'.field? name))
    (hname : name ∉ optional) (hkeeps : ∀ Change, (name, Change) ∈ nested → Keeps decode Change)
    (ha : r.required name decode = some a) : r'.required name decode = some a := by
  rw [Record.required] at ha ⊢
  generalize r.field? name = field at h ha
  generalize r'.field? name = field' at h
  cases h with
  | kept => exact ha
  | dropped hoptional => exact absurd hoptional hname
  | revised hnested hchange => exact (hkeeps _ hnested).reads hchange ha

private theorem Keeps.nullable {Change : Json → Json → Prop} {given : Option α}
    (hkeeps : Keeps decode Change) (h : Change value value')
    (hgiven : Record.nullable decode value = some given) :
    Record.nullable decode value' = some given := by
  obtain ⟨hne, hne'⟩ := hkeeps.ne_null h
  rw [Record.nullable_eq_some_iff] at hgiven ⊢
  cases given with
  | none => exact absurd hgiven hne
  | some a => exact ⟨hne', hkeeps.reads h hgiven.2⟩

/-- An optional field is read as before, also where null has been left out. -/
theorem FieldRevised.lenient {given : Option α}
    (h : FieldRevised optional nested name (r.field? name) (r'.field? name))
    (hkeeps : ∀ Change, (name, Change) ∈ nested → Keeps decode Change)
    (hgiven : r.lenient name decode = some given) : r'.lenient name decode = some given := by
  rw [Record.lenient, Record.withDefault] at hgiven ⊢
  generalize r.field? name = field at h hgiven
  generalize r'.field? name = field' at h
  cases h with
  | kept => exact hgiven
  | dropped => exact hgiven
  | revised hnested hchange => exact (hkeeps _ hnested).nullable hchange hgiven

end Fields

/-- A decoder keeps what it reads if it reads the same of records with the same fields but for those
that are revised. -/
theorem Revised.keeps {α : Type} {read : Record → Option α} (hnodup : names.Nodup)
    (hread : ∀ {r r' : Record} {a},
      (∀ name ∈ names, FieldRevised optional nested name (r.field? name) (r'.field? name)) →
        read r = some a → read r' = some a) :
    Keeps (fun value => (record? names value).bind read) (Revised names optional nested) where
  ne_null := Revised.ne_null
  reads h ha := by
    obtain ⟨r, hr, ha⟩ := Option.bind_eq_some_iff.mp ha
    obtain ⟨r', hr', hfield⟩ := h.exists_record? hnodup hr
    exact Option.bind_eq_some_iff.mpr ⟨r', hr', hread hfield ha⟩

/-- What one change keeps is kept by any number of them. -/
theorem Keeps.run {α : Type} {decode : Json → Option α} {Change : Json → Json → Prop} {a : α}
    (hkeeps : Keeps decode Change) (h : Relation.ReflTransGen Change value value')
    (ha : decode value = some a) : decode value' = some a := by
  induction h with
  | refl => exact ha
  | tail _ hchange ih => exact hkeeps.reads hchange ih

end Revision

end CredentialIssuer.Json
