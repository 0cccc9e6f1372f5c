import CredentialIssuer.Proofs.Keyed
import CredentialIssuer.Settings.Path

/-! A value that is put at a path is found there and all else stays, also when something is put at
paths apart from it. -/
namespace CredentialIssuer.Settings.Path

open Keyed (lookup_cons_ite)

def entryOf (value : Tree) (name : String) : Tree := ((entriesOf value).lookup name).getD .nil

/-- No section on the way through a tree gives its entries by place. -/
def isByName : List String → Tree → Bool
  | [], _ => true
  | _ :: _, .list _ => false
  | name :: names, value => isByName names (entryOf value name)

/-- A tree with a value at the end of some names, which beside them is like another one. -/
inductive DiffersAt (value : Tree) : List String → Tree → Tree → Prop where
  | here (old : Tree) : DiffersAt value [] value old
  | under {name : String} {names : List String} {entries : Tree.Entries} {inner old : Tree}
    (hfound : entries.lookup name = some inner)
    (hothers : ∀ other ≠ name, entries.lookup other = (entriesOf old).lookup other)
    (hinner : DiffersAt value names inner (entryOf old name)) :
    DiffersAt value (name :: names) (.table entries) old

/-- Steps that turn off the way along some names before its end. -/
def isApart : List String → List Step → Bool
  | name :: names, .key other :: steps => other ≠ name || isApart names steps
  | _, _ => false

variable {name other : String} {names : List String} {change : Tree → Tree}
  {entries : Tree.Entries} {value tree old : Tree}

/-- A change is found under its own name. -/
theorem lookup_changeEntry : (changeEntry name change entries).lookup other =
    if other = name then some (change ((entries.lookup name).getD .nil))
    else entries.lookup other := by
  induction entries with
  | nil => rw [changeEntry, lookup_cons_ite, List.lookup_nil, List.lookup_nil, Option.getD_none]
  | cons e rest ih =>
    obtain ⟨n, v⟩ := e
    rw [changeEntry]
    split
    · rename_i heq
      subst heq
      simp only [lookup_cons_ite, if_pos, Option.getD_some]
      by_cases h : other = n
      · rw [if_pos h, if_pos h]
      · rw [if_neg h, if_neg h, if_neg h]
    · rename_i hne
      rw [lookup_cons_ite, ih, lookup_cons_ite, lookup_cons_ite, if_neg (Ne.symm hne)]
      by_cases h : other = n
      · rw [if_pos h, if_pos h, if_neg (h ▸ hne)]
      · rw [if_neg h, if_neg h]

private theorem entryOf_changeEntry : entryOf (.table (changeEntry name change entries)) other =
    if other = name then change (entryOf (.table entries) other)
    else entryOf (.table entries) other := by
  simp only [entryOf, entriesOf, lookup_changeEntry]
  split
  · rename_i heq
    rw [Option.getD_some, heq]
  · rfl

/-- Setting a path changes the tree at the end of its steps. -/
theorem table_set (path : Path) (value : Tree) (entries : Tree.Entries) :
    .table (path.set value entries) =
      changeAt (.key path.root :: path.steps) (laidOver value) (.table entries) := rfl

/-- Whatever is no table takes the place of what was there. -/
private theorem laidOver_scalar (h : ∀ inner, value ≠ .table inner) :
    laidOver value old = value := by
  cases value with
  | table inner => exact absurd rfl (h inner)
  | _ => rfl

/-- A value that is put in place is the only difference. -/
theorem differsAt_changeAt (h : ∀ inner, value ≠ .table inner) (names : List String) (old : Tree) :
    DiffersAt value names (changeAt (names.map .key) (laidOver value) old) old := by
  induction names generalizing old with
  | nil =>
    rw [List.map_nil, changeAt, laidOver_scalar h]
    exact .here old
  | cons name names ih =>
    rw [List.map_cons, changeAt]
    refine .under ?_ (fun other hne => ?_) (ih (entryOf old name))
    · rw [lookup_changeEntry, if_pos rfl]
      rfl
    · rw [lookup_changeEntry, if_neg hne]

namespace DiffersAt

/-- Of two trees that are like a third one, each is like the other. -/
theorem of_common {last : Tree} (hlast : DiffersAt last names tree old) {first : Tree}
    (hfirst : DiffersAt value names first old) : DiffersAt last names tree first := by
  induction hlast generalizing first with
  | here => exact .here first
  | under hfound hothers _ ih =>
    cases hfirst with
    | under hfound' hothers' hinner' =>
      refine .under hfound (fun other hne => ?_) (ih ?_)
      · exact (hothers other hne).trans (hothers' other hne).symm
      · rwa [entryOf, entriesOf, hfound', Option.getD_some]

protected theorem isByName (h : DiffersAt value names tree old) : isByName names tree = true := by
  induction h with
  | here => rfl
  | under hfound _ _ ih =>
    rw [Path.isByName, entryOf, entriesOf, hfound]
    · exact ih
    · exact nofun

/-- What is put elsewhere is put into both. -/
theorem changeAt {steps : List Step} (hsteps : isApart names steps = true)
    (h : DiffersAt value names tree old) :
    DiffersAt value names (Path.changeAt steps change tree) (Path.changeAt steps change old) := by
  induction h generalizing steps with
  | here => cases hsteps
  | @under name names entries inner old hfound hothers hinner ih =>
    cases steps with
    | nil => cases hsteps
    | cons step steps =>
      cases step with
      | place index => cases hsteps
      | key target =>
        rw [Path.changeAt, Path.changeAt]
        -- The steps turn off below this name, or at it.
        by_cases htarget : target = name
        · subst htarget
          have hrest : isApart names steps = true := by simpa [isApart] using hsteps
          have hfound' : (changeEntry target (Path.changeAt steps change) entries).lookup target =
              some (Path.changeAt steps change inner) := by
            rw [lookup_changeEntry, if_pos rfl, hfound, Option.getD_some]
          refine .under hfound' (fun other hne => ?_) ?_
          · simp only [entriesOf, lookup_changeEntry, if_neg hne, hothers other hne]
          · rw [entryOf_changeEntry, if_pos rfl]
            exact ih hrest
        · have hfound' : (changeEntry target (Path.changeAt steps change) entries).lookup name =
              some inner := by
            rw [lookup_changeEntry, if_neg (Ne.symm htarget), hfound]
          refine .under hfound' (fun other hne => ?_) ?_
          · simp only [entriesOf, lookup_changeEntry, hothers other hne, hothers target htarget]
          · rw [entryOf_changeEntry, if_neg (Ne.symm htarget)]
            exact hinner

end DiffersAt

theorem ne_list_of_isByName (h : isByName (name :: names) value = true) (items : List Tree) :
    value ≠ .list items := by
  rintro rfl
  cases h

theorem isByName_entryOf (h : isByName (name :: names) value = true) :
    isByName names (entryOf value name) = true := by
  cases value with
  | list items => cases h
  | _ => exact h

end CredentialIssuer.Settings.Path
