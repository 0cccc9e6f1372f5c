import CredentialIssuer.Proofs.Text.Segments

/-! What is left of a text when the blanks around it are dropped. -/
namespace CredentialIssuer.Text

def AllBlank (cs : List Char) : Prop := ∀ c ∈ cs, isBlank c = true

/-- A text with blanks around a core that neither begins nor ends with one. -/
structure IsCore (cs core : List Char) : Prop where
  within : ∃ before after, cs = before ++ core ++ after ∧ AllBlank before ∧ AllBlank after
  head : ∀ c ∈ core.head?, isBlank c = false
  last : ∀ c ∈ core.getLast?, isBlank c = false

private theorem allBlank_takeWhile (cs : List Char) : AllBlank (cs.takeWhile isBlank) := by
  intro c hc
  exact List.all_eq_true.mp List.all_takeWhile c hc

private theorem head?_dropWhile (cs : List Char) :
    ∀ c ∈ (cs.dropWhile isBlank).head?, isBlank c = false := by
  intro c hc
  have h := List.head?_dropWhile_not isBlank cs
  rw [Option.mem_def.mp hc] at h
  simpa using h

/-- Trimming leaves a core. -/
theorem isCore_trim (cs : List Char) : IsCore cs (trim cs) := by
  let rest := cs.dropWhile isBlank
  let kept := rest.reverse.dropWhile isBlank
  have hcs : cs.takeWhile isBlank ++ rest = cs := List.takeWhile_append_dropWhile
  have hrest : kept.reverse ++ (rest.reverse.takeWhile isBlank).reverse = rest := by
    rw [← List.reverse_append, List.takeWhile_append_dropWhile, List.reverse_reverse]
  refine ⟨⟨cs.takeWhile isBlank, (rest.reverse.takeWhile isBlank).reverse, ?_,
    allBlank_takeWhile cs, ?_⟩, ?_, ?_⟩
  · rw [List.append_assoc]
    exact (hrest.symm ▸ hcs).symm
  · intro c hc
    exact allBlank_takeWhile rest.reverse c (List.mem_reverse.mp hc)
  · intro c hc
    have hkept : kept.reverse.head? = some c := hc
    have hhead : rest.head? = some c := by
      rw [← hrest, List.head?_append, hkept]
      rfl
    exact head?_dropWhile cs c hhead
  · intro c hc
    rw [trim, List.getLast?_reverse] at hc
    exact head?_dropWhile rest.reverse c hc

/-- Trimming finds the core, and a text has no other. -/
theorem trim_eq_iff {cs core : List Char} : trim cs = core ↔ IsCore cs core := by
  constructor
  · rintro rfl
    exact isCore_trim cs
  · rintro ⟨⟨before, after, rfl, hbefore, hafter⟩, hhead, hlast⟩
    cases core with
    | nil =>
      have hblank : AllBlank (before ++ [] ++ after) := by
        rw [List.append_nil]
        exact fun c hc => (List.mem_append.mp hc).elim (hbefore c) (hafter c)
      rw [trim, List.dropWhile_eq_nil_iff.mpr hblank]
      rfl
    | cons c core =>
      have hblank : AllBlank after.reverse := fun d hd => hafter d (List.mem_reverse.mp hd)
      have hlast : ∀ d ∈ (c :: core).reverse.head?, isBlank d = false := by
        rwa [List.head?_reverse]
      have hhead : ∀ d ∈ (c :: core ++ after).head?, isBlank d = false := hhead
      rw [trim, List.append_assoc, dropWhile_append_of_head hbefore hhead, List.reverse_append,
        dropWhile_append_of_head hblank hlast, List.reverse_reverse]

private theorem allBlank_nil : AllBlank [] := nofun

section NoBlank

variable {core : List Char} (hcore : ∀ c ∈ core, isBlank c = false)

include hcore

/-- Without blanks in it, a text is its own core. -/
theorem isCore_of_no_blank {before after : List Char} (hbefore : AllBlank before)
    (hafter : AllBlank after) : IsCore (before ++ core ++ after) core where
  within := ⟨before, after, rfl, hbefore, hafter⟩
  head c hc := hcore c (List.mem_of_mem_head? hc)
  last c hc := hcore c (List.mem_of_getLast? hc)

/-- A text without blanks is its own core. -/
theorem isCore_self : IsCore core core := by
  have h := isCore_of_no_blank hcore allBlank_nil allBlank_nil
  rwa [List.append_nil] at h

end NoBlank

end CredentialIssuer.Text
