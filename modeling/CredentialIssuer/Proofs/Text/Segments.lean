import CredentialIssuer.Text.Segments
import Mathlib.Data.List.TakeWhile

/-! Cutting a text at a separator is the inverse of joining pieces that do not hold it. A run of
characters at the front ends at the first that does not belong to it. -/
namespace CredentialIssuer.Text

private theorem segments_cons (sep c : Char) (cs : List Char) :
    segments sep (c :: cs) = push sep c (segments sep cs) := rfl

/-- The pieces are those of the library. -/
theorem segments_eq_splitOn (sep : Char) (cs : List Char) : segments sep cs = cs.splitOn sep := by
  induction cs with
  | nil => rfl
  | cons c cs ih =>
    rw [segments_cons, ih, List.splitOn_cons_eq_if_modifyHead]
    obtain ⟨first, rest, hs⟩ := List.exists_cons_of_ne_nil (List.splitOn_ne_nil sep cs)
    by_cases h : c = sep <;> simp [push, hs, h]

private theorem segments_ne_nil (sep : Char) (cs : List Char) : segments sep cs ≠ [] := by
  rw [segments_eq_splitOn]
  exact List.splitOn_ne_nil sep cs

private theorem not_mem_of_mem_segments {sep : Char} {cs part : List Char}
    (h : part ∈ segments sep cs) : sep ∉ part := by
  induction cs generalizing part with
  | nil =>
    obtain rfl : part = [] := by simpa [segments] using h
    exact List.not_mem_nil
  | cons c cs ih =>
    obtain ⟨first, rest, hs⟩ := List.exists_cons_of_ne_nil (segments_ne_nil sep cs)
    rw [hs] at ih
    rw [segments_cons, hs, push] at h
    split at h
    · rcases List.mem_cons.mp h with rfl | h
      · exact List.not_mem_nil
      · exact ih h
    · rename_i hc
      rcases List.mem_cons.mp h with rfl | h
      · have hfirst : sep ∉ first := ih List.mem_cons_self
        simp [hfirst, Ne.symm hc]
      · exact ih (List.mem_cons_of_mem _ h)

/-- Pieces are made of the characters of the text. -/
theorem mem_of_mem_segments {sep c : Char} {cs part : List Char} (h : part ∈ segments sep cs)
    (hc : c ∈ part) : c ∈ cs := by
  induction cs generalizing part with
  | nil =>
    obtain rfl : part = [] := by simpa [segments] using h
    exact hc
  | cons d cs ih =>
    obtain ⟨first, rest, hs⟩ := List.exists_cons_of_ne_nil (segments_ne_nil sep cs)
    rw [hs] at ih
    rw [segments_cons, hs, push] at h
    split at h
    · rcases List.mem_cons.mp h with rfl | h
      · cases hc
      · exact List.mem_cons_of_mem _ (ih h hc)
    · rcases List.mem_cons.mp h with rfl | h
      · rcases List.mem_cons.mp hc with rfl | hc
        · exact List.mem_cons_self
        · exact List.mem_cons_of_mem _ (ih List.mem_cons_self hc)
      · exact List.mem_cons_of_mem _ (ih (List.mem_cons_of_mem _ h) hc)

/-- There is one piece more than there are separators, and the first ends at the first of them. -/
theorem segments_spec (sep : Char) (cs : List Char) :
    ∃ rest, segments sep cs = cs.takeWhile (· ≠ sep) :: rest ∧ rest.length = cs.count sep := by
  induction cs with
  | nil => exact ⟨[], rfl, rfl⟩
  | cons c cs ih =>
    obtain ⟨rest, hrest, hlength⟩ := ih
    rw [segments_cons, hrest, push]
    by_cases hc : c = sep
    · exact ⟨cs.takeWhile (· ≠ sep) :: rest, by simp [hc], by simp [hc, hlength]⟩
    · exact ⟨rest, by simp [hc], by simp [hc, hlength]⟩

/-- The pieces are the only texts without the separator that give the text when joined. -/
theorem segments_eq_iff {sep : Char} {cs : List Char} {parts : List (List Char)}
    (hp : parts ≠ []) :
    segments sep cs = parts ↔ [sep].intercalate parts = cs ∧ ∀ part ∈ parts, sep ∉ part := by
  constructor
  · rintro rfl
    refine ⟨?_, fun part h => not_mem_of_mem_segments h⟩
    rw [segments_eq_splitOn]
    exact List.intercalate_splitOn sep
  · rintro ⟨rfl, hfree⟩
    rw [segments_eq_splitOn]
    exact List.splitOn_intercalate sep hfree hp

/-- The first two pieces, with the separator after them if there are more. -/
theorem exists_segments_eq_iff {sep : Char} {cs a b : List Char} :
    (∃ rest, segments sep cs = a :: b :: rest) ↔
      ∃ tail, cs = a ++ sep :: b ++ tail ∧ sep ∉ a ∧ sep ∉ b ∧
        (tail = [] ∨ ∃ rest, tail = sep :: rest) := by
  constructor
  · rintro ⟨rest, h⟩
    obtain ⟨hjoin, hfree⟩ := (segments_eq_iff (List.cons_ne_nil _ _)).mp h
    have ha : sep ∉ a := hfree a List.mem_cons_self
    have hb : sep ∉ b := hfree b (List.mem_cons_of_mem _ List.mem_cons_self)
    cases rest with
    | nil => exact ⟨[], by simpa [List.intercalate] using hjoin.symm, ha, hb, .inl rfl⟩
    | cons c rest =>
      refine ⟨sep :: [sep].intercalate (c :: rest), ?_, ha, hb, .inr ⟨_, rfl⟩⟩
      simpa [List.intercalate] using hjoin.symm
  · rintro ⟨tail, rfl, ha, hb, rfl | ⟨rest, rfl⟩⟩
    · refine ⟨[], (segments_eq_iff (List.cons_ne_nil _ _)).mpr ⟨by simp [List.intercalate], ?_⟩⟩
      simp [ha, hb]
    · refine ⟨segments sep rest, (segments_eq_iff (List.cons_ne_nil _ _)).mpr ⟨?_, ?_⟩⟩
      · obtain ⟨c, pieces, hpieces⟩ := List.exists_cons_of_ne_nil (segments_ne_nil sep rest)
        have hjoin := ((segments_eq_iff (segments_ne_nil sep rest)).mp rfl).1
        rw [hpieces] at hjoin ⊢
        rw [← hjoin]
        simp [List.intercalate]
      · intro part hpart
        rcases List.mem_cons.mp hpart with rfl | hpart
        · exact ha
        rcases List.mem_cons.mp hpart with rfl | hpart
        · exact hb
        · exact not_mem_of_mem_segments hpart

/-- The first separator is the one with none before it. -/
theorem splitFirst?_eq_some_iff {sep : Char} {cs a b : List Char} :
    splitFirst? sep cs = some (a, b) ↔ cs = a ++ sep :: b ∧ sep ∉ a := by
  unfold splitFirst?
  constructor
  · intro h
    split at h
    · cases h
    · rename_i c rest hdrop
      obtain ⟨rfl, rfl⟩ := Prod.mk.inj (Option.some.inj h)
      have hne : cs.dropWhile (· ≠ sep) ≠ [] := hdrop ▸ List.cons_ne_nil _ _
      have hhead := List.head_dropWhile_not (· ≠ sep) hne
      simp only [hdrop, List.head_cons] at hhead
      obtain rfl : c = sep := by simpa using hhead
      refine ⟨?_, fun hmem => ?_⟩
      · rw [← hdrop]
        exact List.takeWhile_append_dropWhile.symm
      · simpa using List.all_eq_true.mp List.all_takeWhile c hmem
  · rintro ⟨rfl, ha⟩
    have hkept : ∀ c ∈ a, decide (c ≠ sep) = true := fun c hc =>
      decide_eq_true fun he => ha (he ▸ hc)
    rw [List.dropWhile_append_of_pos hkept, List.takeWhile_append_of_pos hkept]
    simp

section Runs

variable {α : Type} {run rest : List α} {p : α → Bool}

/-- A run ends where the rest begins with something else. -/
theorem takeWhile_append_of_head (hrun : ∀ c ∈ run, p c = true)
    (hrest : ∀ c ∈ rest.head?, p c = false) : (run ++ rest).takeWhile p = run := by
  rw [List.takeWhile_append_of_pos hrun]
  cases rest with
  | nil => simp
  | cons c rest => simp [hrest c rfl]

/-- And the rest is what comes after the run. -/
theorem dropWhile_append_of_head (hrun : ∀ c ∈ run, p c = true)
    (hrest : ∀ c ∈ rest.head?, p c = false) : (run ++ rest).dropWhile p = rest := by
  rw [List.dropWhile_append_of_pos hrun]
  cases rest with
  | nil => rfl
  | cons c rest => rw [List.dropWhile_cons_of_neg (by simp [hrest c rfl])]

end Runs

end CredentialIssuer.Text
