import CredentialIssuer.Json.Basic
import Mathlib.Data.List.Nodup
import Mathlib.Data.String.Basic

/-! Objects in the form in which they are kept, with one member for each name and in the order of
the names. Members with different names have one such form, in whatever order they stand. -/
namespace CredentialIssuer.Json

namespace Members

def Ordered (members : Members) : Prop := members.Pairwise fun a b => a.1 < b.1

/-- An object as it is kept, at every level. -/
def IsMap (members : Members) : Prop := sortedMembers members = members

theorem Ordered.nodup {members : Members} (h : members.Ordered) : (members.map (·.1)).Nodup := by
  refine List.pairwise_map.mpr (h.imp ?_)
  exact fun hlt => String.ne_of_lt hlt

/-- Members in order are determined by which they are. -/
theorem Ordered.eq_of_perm {a b : Members} (ha : a.Ordered) (hb : b.Ordered) (h : a.Perm b) :
    a = b :=
  List.Perm.eq_of_pairwise (fun _ _ _ _ hlt hgt => absurd hgt (String.lt_asymm hlt)) ha hb h

variable {name : String} {value : Json} {members : Members}

/-- An insertion brings in nothing but the new member. -/
theorem mem_insertNew {m : String × Json} (h : m ∈ insertNew name value members) :
    m = (name, value) ∨ m ∈ members := by
  induction members with
  | nil => simpa [insertNew] using h
  | cons first rest ih =>
    rw [insertNew] at h
    split at h
    · exact List.mem_cons.mp h
    · split at h
      · exact .inr h
      · rcases List.mem_cons.mp h with rfl | h
        · exact .inr List.mem_cons_self
        · exact (ih h).imp_right (List.mem_cons_of_mem _)

/-- An insertion keeps the order. -/
theorem Ordered.insertNew (h : members.Ordered) : (insertNew name value members).Ordered := by
  induction members with
  | nil => exact List.pairwise_singleton _ _
  | cons first rest ih =>
    obtain ⟨hfirst, hrest⟩ := List.pairwise_cons.mp h
    rw [Members.insertNew]
    split
    · rename_i hlt
      refine List.pairwise_cons.mpr ⟨?_, h⟩
      intro m hm
      rcases List.mem_cons.mp hm with rfl | hm
      · exact hlt
      · exact String.lt_trans hlt (hfirst m hm)
    · split
      · exact h
      · rename_i hge hne
        refine List.pairwise_cons.mpr ⟨?_, ih hrest⟩
        intro m hm
        rcases mem_insertNew hm with rfl | hm
        · exact Std.lt_of_le_of_ne (String.not_lt.mp hge) (Ne.symm hne)
        · exact hfirst m hm

/-- Under a new name an insertion loses nothing. -/
theorem insertNew_perm (h : name ∉ members.map (·.1)) :
    (insertNew name value members).Perm ((name, value) :: members) := by
  induction members with
  | nil => exact .refl _
  | cons first rest ih =>
    rw [List.map_cons, List.mem_cons, not_or] at h
    rw [insertNew]
    split
    · exact .refl _
    · rw [if_neg h.1]
      exact ((ih h.2).cons first).trans (.swap _ _ _)

/-- What comes first in order is put first. -/
private theorem insertNew_of_lt (h : ∀ m ∈ members, name < m.1) :
    insertNew name value members = (name, value) :: members := by
  cases members with
  | nil => rfl
  | cons first rest => rw [insertNew, if_pos (h first List.mem_cons_self)]

end Members

open Members

/-- What is sorted is in order. -/
theorem sortedMembers_ordered (members : Members) : Ordered (sortedMembers members) := by
  induction members with
  | nil => exact List.Pairwise.nil
  | cons first rest ih => exact ih.insertNew

/-- As long as no name stands twice, no member is lost. -/
theorem sortedMembers_perm {members : Members} (h : (members.map (·.1)).Nodup) :
    (sortedMembers members).Perm (members.map fun m => (m.1, m.2.sorted)) := by
  induction members with
  | nil => exact .refl _
  | cons first rest ih =>
    obtain ⟨hfirst, hrest⟩ := List.nodup_cons.mp h
    have hperm := ih hrest
    have hnames : ((sortedMembers rest).map (·.1)).Perm (rest.map (·.1)) := by
      have hmap := hperm.map (·.1)
      rwa [List.map_map] at hmap
    have hnew : first.1 ∉ (sortedMembers rest).map (·.1) := fun hm => hfirst (hnames.mem_iff.mp hm)
    exact (insertNew_perm hnew).trans (hperm.cons _)

/-- The order in which members are written does not matter. -/
theorem sortedMembers_eq_of_perm {a b : Members} (h : a.Perm b) (hnodup : (b.map (·.1)).Nodup) :
    sortedMembers a = sortedMembers b := by
  have hnodup' : (a.map (·.1)).Nodup := (h.map _).nodup_iff.mpr hnodup
  refine (sortedMembers_ordered a).eq_of_perm (sortedMembers_ordered b) ?_
  exact (sortedMembers_perm hnodup').trans ((h.map _).trans (sortedMembers_perm hnodup).symm)

namespace Members

/-- An object is in its form if its names ascend and its values are in theirs. -/
theorem isMap_iff {members : Members} :
    members.IsMap ↔ members.Ordered ∧ ∀ m ∈ members, m.2.sorted = m.2 := by
  constructor
  · intro h
    have hordered : members.Ordered := h ▸ sortedMembers_ordered members
    have hperm := sortedMembers_perm hordered.nodup
    rw [h] at hperm
    refine ⟨hordered, fun m hm => ?_⟩
    obtain ⟨other, hother, heq⟩ := List.mem_map.mp (hperm.mem_iff.mp hm)
    obtain ⟨hname, hvalue⟩ := Prod.mk.inj heq
    obtain rfl := List.inj_on_of_nodup_map hordered.nodup hother hm hname
    exact hvalue
  · rintro ⟨hordered, hvalues⟩
    induction members with
    | nil => rfl
    | cons first rest ih =>
      obtain ⟨hfirst, hrest⟩ := List.pairwise_cons.mp hordered
      obtain ⟨hvalue, hvalues⟩ := List.forall_mem_cons.mp hvalues
      have hkept : sortedMembers rest = rest := ih hrest hvalues
      rw [IsMap, sortedMembers, hvalue, hkept, insertNew_of_lt hfirst]

/-- Leaving members out keeps an object in its form. -/
theorem IsMap.filter {members : Members} (h : members.IsMap) (keep : String × Json → Bool) :
    IsMap (members.filter keep) := by
  obtain ⟨hordered, hvalues⟩ := isMap_iff.mp h
  refine isMap_iff.mpr ⟨List.Pairwise.filter keep hordered, ?_⟩
  exact fun m hm => hvalues m (List.mem_filter.mp hm).1

end Members

end CredentialIssuer.Json
