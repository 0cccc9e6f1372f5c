import CredentialIssuer.AuthorizationCode
import CredentialIssuer.Proofs.Keyed
import Mathlib.Data.List.Induction
import Mathlib.Data.Set.Card

/-! Codes over time. Under each hash a store holds what the last step on that hash left there, and
steps on different hashes do not meet. -/
namespace CredentialIssuer.AuthorizationCode

/-- A step in the life of a store. Callers name a code, the store itself knows hashes only. -/
inductive Step where
  | persist (code resourceId redirectUrl : String) (now : Timestamp)
  | revoke (code : String)
  | create (item : Item)
  | delete (hash : String)

namespace Step

def target : Step → String
  | .persist code _ _ _ => hash code
  | .revoke code => hash code
  | .create item => item.hash
  | .delete hash => hash

/-- What a step leaves under its hash. -/
def left? : Step → Option Item
  | .persist code resourceId redirectUrl now =>
    some ⟨hash code, resourceId, redirectUrl, now⟩
  | .create item => some item
  | .revoke _ => none
  | .delete _ => none

def apply (store : Store) : Step → Store
  | .persist code resourceId redirectUrl now => store.persist code resourceId redirectUrl now
  | .revoke code => store.revoke code
  | .create item => store.create item
  | .delete hash => store.delete hash

/-- An item is left under its own hash. -/
private theorem hash_of_left? {step : Step} {item : Item} (h : step.left? = some item) :
    item.hash = step.target := by
  cases step with
  | persist code resourceId redirectUrl now =>
    obtain rfl := Option.some.inj h
    rfl
  | create stored =>
    obtain rfl := Option.some.inj h
    rfl
  | revoke code => cases h
  | delete hash => cases h

/-- A step decides what is found under its own hash and nothing else. -/
theorem findByHash_apply (store : Store) (step : Step) (hash : String) :
    (step.apply store).findByHash hash =
      if hash = step.target then step.left? else store.findByHash hash := by
  cases step with
  | persist code resourceId redirectUrl now => exact Keyed.find?_insert _ _ _ _
  | revoke code => exact Keyed.find?_erase _ _ _
  | create item => exact Keyed.find?_insert _ _ _ _
  | delete target => exact Keyed.find?_erase _ _ _

private theorem apply_comm (store : Store) {a b : Step} (h : a.target ≠ b.target) :
    b.apply (a.apply store) = a.apply (b.apply store) := by
  refine Keyed.eq_of_find? fun hash => ?_
  change Store.findByHash _ hash = Store.findByHash _ hash
  simp only [findByHash_apply]
  by_cases ha : hash = a.target
  · rw [if_neg (ha ▸ h), if_pos ha, if_pos ha]
  · rw [if_neg ha, if_neg ha]

end Step

def Store.after (store : Store) (steps : List Step) : Store := steps.foldl Step.apply store

/-- As many items as hashes under which one is found. -/
theorem Store.size_eq_ncard (store : Store) :
    store.size = {hash | ∃ item, store.findByHash hash = some item}.ncard := by
  have hhashes : {hash | ∃ item, store.findByHash hash = some item} =
      ((store.entries.map (·.1)).toFinset : Set String) := by
    ext hash
    simp [← Keyed.mem_entries_iff, Store.findByHash]
  rw [hhashes, Set.ncard_coe_finset, List.toFinset_card_of_nodup store.nodup_keys, List.length_map,
    Keyed.size]

/-- The last step of a history on a hash leaves the item there. -/
def Holds (steps : List Step) (hash : String) (item : Item) : Prop :=
  ∃ before step later, steps = before ++ step :: later ∧ step.target = hash ∧
    step.left? = some item ∧ ∀ s ∈ later, s.target ≠ hash

private theorem holds_append_singleton {steps : List Step} {step : Step} {hash : String}
    {item : Item} :
    Holds (steps ++ [step]) hash item ↔
      if hash = step.target then step.left? = some item else Holds steps hash item := by
  constructor
  · rintro ⟨before, found, later, heq, htarget, hleft, hlater⟩
    rcases List.eq_nil_or_concat later with rfl | ⟨rest, last, rfl⟩
    · obtain ⟨-, rfl⟩ := List.append_singleton_inj.mp heq
      rwa [if_pos htarget.symm]
    · rw [List.concat_eq_append, ← List.cons_append, ← List.append_assoc] at heq
      obtain ⟨rfl, rfl⟩ := List.append_singleton_inj.mp heq
      have hlast : step.target ≠ hash := hlater step (by simp)
      rw [if_neg hlast.symm]
      exact ⟨before, found, rest, rfl, htarget, hleft, fun s hs => hlater s (by simp [hs])⟩
  · intro h
    split at h
    · rename_i htarget
      exact ⟨steps, step, [], rfl, htarget.symm, h, nofun⟩
    · rename_i hne
      obtain ⟨before, found, later, rfl, htarget, hleft, hlater⟩ := h
      refine ⟨before, found, later ++ [step], by simp, htarget, hleft, fun s hs => ?_⟩
      rcases List.mem_append.mp hs with hs | hs
      · exact hlater s hs
      · obtain rfl := List.mem_singleton.mp hs
        exact Ne.symm hne

private theorem Holds.hash_eq {steps : List Step} {hash : String} {item : Item}
    (h : Holds steps hash item) : item.hash = hash := by
  obtain ⟨before, step, later, -, htarget, hleft, -⟩ := h
  rw [Step.hash_of_left? hleft, htarget]

private theorem findByHash_after_eq_some_iff (steps : List Step) (hash : String) (item : Item) :
    (Store.after .empty steps).findByHash hash = some item ↔ Holds steps hash item := by
  induction steps using List.reverseRecOn with
  | nil => simp [Store.after, Store.findByHash, Keyed.find?, Keyed.empty, Holds]
  | append_singleton steps step ih =>
    rw [Store.after, List.foldl_append, List.foldl_cons, List.foldl_nil, ← Store.after,
      Step.findByHash_apply, holds_append_singleton]
    split
    · rfl
    · exact ih

/-- Two histories as one: the steps of each in their order, those of the other in between. -/
inductive Interleaves {α : Type} : List α → List α → List α → Prop where
  | nil : Interleaves [] [] []
  | left {a : α} {left right merged : List α} (h : Interleaves left right merged) :
    Interleaves (a :: left) right (a :: merged)
  | right {b : α} {left right merged : List α} (h : Interleaves left right merged) :
    Interleaves left (b :: right) (b :: merged)

theorem Interleaves.symm {α : Type} {left right merged : List α}
    (h : Interleaves left right merged) : Interleaves right left merged := by
  induction h with
  | nil => exact .nil
  | left _ ih => exact .right ih
  | right _ ih => exact .left ih

section Clients

variable {store : Store} {step : Step} {steps left right merged : List Step} {hash : String}

/-- No step of the one is about the hash of a step of the other. -/
def Disjoint (left right : List Step) : Prop :=
  ∀ a ∈ left, ∀ b ∈ right, a.target ≠ b.target

theorem Disjoint.symm (h : Disjoint left right) : Disjoint right left :=
  fun b hb a ha => (h a ha b hb).symm

private theorem after_apply (h : ∀ a ∈ steps, a.target ≠ step.target) :
    (step.apply store).after steps = step.apply (store.after steps) := by
  induction steps generalizing store with
  | nil => rfl
  | cons a rest ih =>
    have hfirst : a.target ≠ step.target := h a List.mem_cons_self
    have hrest : (step.apply (a.apply store)).after rest =
        step.apply ((a.apply store).after rest) := ih fun s hs => h s (List.mem_cons_of_mem a hs)
    calc (step.apply store).after (a :: rest)
        = (a.apply (step.apply store)).after rest := rfl
      _ = (step.apply (a.apply store)).after rest := by rw [Step.apply_comm store hfirst]
      _ = step.apply ((a.apply store).after rest) := hrest

/-- However the steps fall, the one history may as well come after the other. -/
theorem after_interleaved (h : Interleaves left right merged) (hdisjoint : Disjoint left right) :
    store.after merged = (store.after left).after right := by
  induction h generalizing store with
  | nil => rfl
  | left _ ih => exact ih fun a ha b hb => hdisjoint a (List.mem_cons_of_mem _ ha) b hb
  | @right b left right merged _ ih =>
    have hrest : Disjoint left right :=
      fun a ha b hb => hdisjoint a ha b (List.mem_cons_of_mem _ hb)
    have hfirst : ∀ a ∈ left, a.target ≠ b.target :=
      fun a ha => hdisjoint a ha b List.mem_cons_self
    calc (b.apply store).after merged
        = ((b.apply store).after left).after right := ih hrest
      _ = (b.apply (store.after left)).after right := by rw [after_apply hfirst]

private theorem findByHash_after_of_untouched (h : ∀ s ∈ steps, s.target ≠ hash) :
    (store.after steps).findByHash hash = store.findByHash hash := by
  induction steps generalizing store with
  | nil => rfl
  | cons s rest ih =>
    have hne : hash ≠ s.target := (h s List.mem_cons_self).symm
    calc ((s.apply store).after rest).findByHash hash
        = (s.apply store).findByHash hash := ih fun a ha => h a (List.mem_cons_of_mem s ha)
      _ = store.findByHash hash := by rw [Step.findByHash_apply, if_neg hne]

/-- Where the one history has no step, the other finds what it would find if it were alone. -/
theorem findByHash_after_interleaved (h : Interleaves left right merged)
    (hdisjoint : Disjoint left right) (hright : ∀ b ∈ right, b.target ≠ hash) :
    (store.after merged).findByHash hash = (store.after left).findByHash hash := by
  rw [after_interleaved h hdisjoint]
  exact findByHash_after_of_untouched hright

end Clients

/-- A store that was empty at first, after any history. A code is found exactly if the last step on
its hash wrote an item, and then that item is found; every item lies under its own hash; and there
are as many as hashes that were last written. Steps on different hashes commute in every store, so
that two histories on different hashes come to one store however they fall together, and each finds
there what it left. -/
theorem last_step_decides (steps : List Step) :
    (∀ code item, (Store.after .empty steps).find code = some item ↔
      Holds steps (hash code) item) ∧
    (∀ hash item, (hash, item) ∈ (Store.after .empty steps).entries → item.hash = hash) ∧
    (Store.after .empty steps).size = {hash | ∃ item, Holds steps hash item}.ncard ∧
    (∀ (store : Store) (a b : Step), a.target ≠ b.target →
      store.after [a, b] = store.after [b, a]) ∧
    ∀ left right, Interleaves left right steps → Disjoint left right →
      (∀ other, Interleaves left right other →
        Store.after .empty other = Store.after .empty steps) ∧
      (∀ hash, (∀ b ∈ right, b.target ≠ hash) →
        (Store.after .empty steps).findByHash hash = (Store.after .empty left).findByHash hash) ∧
      ∀ hash, (∀ a ∈ left, a.target ≠ hash) →
        (Store.after .empty steps).findByHash hash =
          (Store.after .empty right).findByHash hash := by
  refine ⟨fun code item => findByHash_after_eq_some_iff steps (hash code) item, ?_, ?_,
    fun store a b h => Step.apply_comm store h, fun left right h hdisjoint => ⟨?_, ?_, ?_⟩⟩
  · intro hash item hmem
    have hfound := Keyed.find?_eq_some_of_mem _ hmem
    exact ((findByHash_after_eq_some_iff steps hash item).mp hfound).hash_eq
  · rw [Store.size_eq_ncard]
    congr with hash
    exact exists_congr (findByHash_after_eq_some_iff steps hash)
  · intro other hother
    rw [after_interleaved hother hdisjoint, after_interleaved h hdisjoint]
  · exact fun hash hright => findByHash_after_interleaved h hdisjoint hright
  · exact fun hash hleft => findByHash_after_interleaved h.symm hdisjoint.symm hleft

/-- A code that is handed out and taken back. -/
private def sampleLeft : List Step :=
  [.persist "first" "resource" "app:back" ⟨0, 0⟩, .revoke "first"]

private def sampleItem : Item := ⟨hash "second", "resource", "app:back", ⟨0, 0⟩⟩

private def sampleRight : List Step := [.create sampleItem]

private def sampleSteps : List Step :=
  [.persist "first" "resource" "app:back" ⟨0, 0⟩, .create sampleItem, .revoke "first"]

/-- The code that was taken back in the meantime is gone, and the other one is found. -/
theorem last_step_decides_two_codes :
    Interleaves sampleLeft sampleRight sampleSteps ∧ Disjoint sampleLeft sampleRight ∧
      Store.after .empty [.revoke "first", .create sampleItem] =
        Store.after .empty [.create sampleItem, .revoke "first"] ∧
      Store.after .empty (sampleRight ++ sampleLeft) = Store.after .empty sampleSteps ∧
      (Store.after .empty sampleSteps).find "first" = none ∧
      (Store.after .empty sampleSteps).find "second" = some sampleItem := by
  have h : Interleaves sampleLeft sampleRight sampleSteps := .left (.right (.left .nil))
  have hne : hash "first" ≠ hash "second" := by decide +kernel
  have hdisjoint : Disjoint sampleLeft sampleRight := by
    simp [Disjoint, sampleLeft, sampleRight, sampleItem, Step.target, hne]
  obtain ⟨-, -, -, hcomm, hclients⟩ := last_step_decides sampleSteps
  obtain ⟨hsame, hleft, hright⟩ := hclients sampleLeft sampleRight h hdisjoint
  refine ⟨h, hdisjoint, hcomm _ _ _ hne, hsame _ (.right (.left (.left .nil))), ?_, ?_⟩
  · have huntouched : ∀ b ∈ sampleRight, b.target ≠ hash "first" := by
      simp [sampleRight, sampleItem, Step.target, hne.symm]
    exact (hleft _ huntouched).trans (by decide +kernel)
  · have huntouched : ∀ a ∈ sampleLeft, a.target ≠ hash "second" := by
      simp [sampleLeft, Step.target, hne]
    exact (hright _ huntouched).trans (by decide +kernel)

end CredentialIssuer.AuthorizationCode
