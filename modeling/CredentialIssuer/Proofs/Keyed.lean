import CredentialIssuer.Keyed
import Mathlib.Data.List.Nodup
import Mathlib.Data.String.Basic

/-! What keyed maps hold: an insert is found under its key, leaves all other keys alone and, under a
new key, adds one entry; an erased key is not found, and the others are. A map is known by what is
found in it. -/
namespace CredentialIssuer.Keyed

variable {α : Type}

theorem lookup_cons_ite (k other : String) (v : α) (l : List (String × α)) :
    ((k, v) :: l).lookup other = if other = k then some v else l.lookup other := by
  rw [List.lookup_cons]
  by_cases h : other = k
  · simp [h]
  · rw [if_neg h, beq_eq_false_iff_ne.mpr h]

private theorem lookup_put (key other : String) (value : α) (l : List (String × α)) :
    (put key value l).lookup other = if other = key then some value else l.lookup other := by
  induction l with
  | nil => rw [put, lookup_cons_ite]
  | cons e rest ih =>
    obtain ⟨k, v⟩ := e
    simp only [put]
    split
    · rw [lookup_cons_ite]
    · split
      · rename_i heq
        subst heq
        rw [lookup_cons_ite, lookup_cons_ite]
        by_cases h : other = key
        · rw [if_pos h, if_pos h]
        · rw [if_neg h, if_neg h, if_neg h]
      · rename_i hne
        rw [lookup_cons_ite, lookup_cons_ite, ih]
        by_cases h : other = k
        · have hkey : other ≠ key := fun he => hne (he.symm.trans h)
          rw [if_pos h, if_neg hkey, if_pos h]
        · rw [if_neg h, if_neg h]

/-- An insertion changes what is under its key and nothing else. -/
theorem find?_insert (m : Keyed α) (key other : String) (value : α) :
    (m.insert key value).find? other = if other = key then some value else m.find? other :=
  lookup_put key other value m.entries

/-- Another key finds what it found before. -/
theorem find?_insert_of_ne (m : Keyed α) {key other : String} (value : α) (h : other ≠ key) :
    (m.insert key value).find? other = m.find? other := by
  rw [find?_insert, if_neg h]

/-- With one entry for each key, an entry is what is found under its key. -/
theorem find?_eq_some_of_mem (m : Keyed α) {key : String} {value : α}
    (h : (key, value) ∈ m.entries) : m.find? key = some value := by
  obtain ⟨l, ordered⟩ := m
  simp only [find?] at h ⊢
  induction l with
  | nil => cases h
  | cons e rest ih =>
    obtain ⟨k, v⟩ := e
    obtain ⟨below, tail⟩ := List.pairwise_cons.mp ordered
    rw [lookup_cons_ite]
    rcases List.mem_cons.mp h with heq | hmem
    · obtain ⟨rfl, rfl⟩ := Prod.mk.inj heq
      rw [if_pos rfl]
    · rw [if_neg (Ne.symm (String.ne_of_lt (below _ hmem))), ih tail hmem]

/-- The entries are what is found under their keys. -/
theorem mem_entries_iff (m : Keyed α) {key : String} {value : α} :
    (key, value) ∈ m.entries ↔ m.find? key = some value := by
  refine ⟨m.find?_eq_some_of_mem, fun h => ?_⟩
  obtain ⟨before, after, heq, -⟩ := List.lookup_eq_some_iff.mp h
  exact heq ▸ List.mem_append_right before List.mem_cons_self

private theorem lookup_filter_ne (key other : String) (l : List (String × α)) :
    (l.filter fun e => e.1 ≠ key).lookup other = if other = key then none else l.lookup other := by
  induction l with
  | nil => simp
  | cons e rest ih =>
    obtain ⟨k, v⟩ := e
    rw [List.filter_cons]
    split
    · rename_i hne
      rw [lookup_cons_ite, lookup_cons_ite, ih]
      by_cases h : other = k
      · have hkey : other ≠ key := h ▸ of_decide_eq_true hne
        rw [if_pos h, if_neg hkey, if_pos h]
      · rw [if_neg h, if_neg h]
    · rename_i heq
      have hkey : k = key := by simpa using heq
      rw [ih, lookup_cons_ite, hkey]
      by_cases h : other = key
      · rw [if_pos h, if_pos h]
      · rw [if_neg h, if_neg h, if_neg h]

/-- A key that is erased holds nothing, and others hold what they did. -/
theorem find?_erase (m : Keyed α) (key other : String) :
    (m.erase key).find? other = if other = key then none else m.find? other :=
  lookup_filter_ne key other m.entries

/-- A key stands once. -/
theorem nodup_keys (m : Keyed α) : (m.entries.map (·.1)).Nodup :=
  List.pairwise_map.mpr (m.ordered.imp fun hlt => String.ne_of_lt hlt)

/-- The order of the keys leaves one map for what is found. -/
theorem eq_of_find? {a b : Keyed α} (h : ∀ key, a.find? key = b.find? key) : a = b := by
  have hmem : ∀ e, e ∈ a.entries ↔ e ∈ b.entries := by
    rintro ⟨key, value⟩
    rw [mem_entries_iff, mem_entries_iff, h]
  have hperm : a.entries.Perm b.entries :=
    (List.perm_ext_iff_of_nodup a.nodup_keys.of_map b.nodup_keys.of_map).mpr hmem
  have hentries : a.entries = b.entries :=
    List.Perm.eq_of_pairwise (fun _ _ _ _ hlt hgt => absurd hgt (String.lt_asymm hlt)) a.ordered
      b.ordered hperm
  cases a
  cases b
  congr

/-- Under a new key an insertion adds one entry. -/
theorem entries_insert_perm (m : Keyed α) {key : String} (value : α) (h : m.find? key = none) :
    (m.insert key value).entries.Perm ((key, value) :: m.entries) := by
  obtain ⟨l, ordered⟩ := m
  simp only [insert, find?] at h ⊢
  clear ordered
  induction l with
  | nil => exact .refl _
  | cons e rest ih =>
    obtain ⟨k, v⟩ := e
    rw [lookup_cons_ite] at h
    split at h
    · cases h
    · rename_i hne
      simp only [put]
      split
      · exact .refl _
      · exact (List.Perm.cons _ (ih h)).trans (.swap _ _ _)

end CredentialIssuer.Keyed
