/-! Steps that may fail succeed together exactly when each of them does, and conditions are asked
for one after the other. -/
namespace CredentialIssuer

variable {ε α β : Type}

/-- Two steps succeed together if each of them does. -/
theorem bind_eq_ok_iff {x : Except ε α} {f : α → Except ε β} {b : β} :
    x >>= f = .ok b ↔ ∃ a, x = .ok a ∧ f a = .ok b := by
  cases x with
  | error e => simp [bind, Except.bind]
  | ok a => simp [bind, Except.bind]

/-- The first step that fails tells why. -/
theorem bind_eq_error_iff {x : Except ε α} {f : α → Except ε β} {e : ε} :
    x >>= f = .error e ↔ x = .error e ∨ ∃ a, x = .ok a ∧ f a = .error e := by
  cases x with
  | error e => simp [bind, Except.bind]
  | ok a => simp [bind, Except.bind]

theorem map_eq_ok_iff {x : Except ε α} {f : α → β} {b : β} :
    x.map f = .ok b ↔ ∃ a, x = .ok a ∧ f a = b := by
  cases x with
  | error e => simp [Except.map]
  | ok a => simp [Except.map]

/-- A check of each element passes if it passes on all of them. -/
theorem forM_eq_ok_iff {l : List α} {f : α → Except ε Unit} :
    l.forM f = .ok () ↔ ∀ a ∈ l, f a = .ok () := by
  rw [List.forM_eq_forM]
  induction l with
  | nil => simp [pure, Except.pure]
  | cons a l ih =>
    rw [List.forM_cons, bind_eq_ok_iff, List.forall_mem_cons]
    constructor
    · rintro ⟨⟨⟩, ha, hl⟩
      exact ⟨ha, ih.mp hl⟩
    · rintro ⟨ha, hl⟩
      exact ⟨(), ha, ih.mpr hl⟩

theorem toOption_eq_some_iff {x : Except ε α} {a : α} : x.toOption = some a ↔ x = .ok a := by
  cases x with
  | error e => simp [Except.toOption]
  | ok b => simp [Except.toOption]

/-- A step that always succeeds on a list is a map. -/
theorem mapM_eq_some_map {l : List α} {f : α → Option β} {g : α → β}
    (h : ∀ a ∈ l, f a = some (g a)) : l.mapM f = some (l.map g) := by
  induction l with
  | nil => rfl
  | cons a l ih =>
    obtain ⟨ha, hl⟩ := List.forall_mem_cons.mp h
    rw [List.mapM_cons, ha, ih hl]
    rfl

/-- A list is read back where each of its items is. -/
theorem mapM_map_eq_some {l : List α} {f : α → β} {g : β → Option α}
    (h : ∀ a ∈ l, g (f a) = some a) : (l.map f).mapM g = some l := by
  have hread : ∀ a ∈ l, (g ∘ f) a = some (id a) := h
  rw [List.mapM_map, mapM_eq_some_map hread, List.map_id]

/-- Every result comes from an element. -/
theorem exists_of_mem_mapM {l : List α} {f : α → Option β} {l' : List β} {b : β}
    (h : l.mapM f = some l') (hb : b ∈ l') : ∃ a ∈ l, f a = some b := by
  induction l generalizing l' with
  | nil =>
    obtain rfl : [] = l' := Option.some.inj h
    exact absurd hb List.not_mem_nil
  | cons a l ih =>
    simp only [List.mapM_cons, Option.bind_eq_bind, Option.bind_eq_some_iff] at h
    obtain ⟨first, hfirst, rest, hrest, h⟩ := h
    obtain rfl : first :: rest = l' := Option.some.inj h
    rcases List.mem_cons.mp hb with rfl | hb
    · exact ⟨a, List.mem_cons_self, hfirst⟩
    · obtain ⟨a', ha', hread⟩ := ih hrest hb
      exact ⟨a', List.mem_cons_of_mem _ ha', hread⟩

/-- The error of the first condition that does not hold, after others that do. -/
inductive FirstFails : List (Prop × ε) → ε → Prop where
  | here {condition : Prop} {error : ε} {rest : List (Prop × ε)} (h : ¬ condition) :
    FirstFails ((condition, error) :: rest) error
  | later {condition : Prop} {other error : ε} {rest : List (Prop × ε)} (h : condition)
    (hrest : FirstFails rest error) : FirstFails ((condition, other) :: rest) error

private theorem FirstFails.not_all {conditions : List (Prop × ε)} {error : ε}
    (h : FirstFails conditions error) : ¬ ∀ c ∈ conditions, c.1 := by
  intro hall
  induction h with
  | here h => exact h (hall _ List.mem_cons_self)
  | later _ _ ih => exact ih fun c hc => hall c (List.mem_cons_of_mem _ hc)

/-- The error that is told belongs to one of the conditions. -/
theorem FirstFails.exists_mem {conditions : List (Prop × ε)} {error : ε}
    (h : FirstFails conditions error) : ∃ c ∈ conditions, c.2 = error := by
  induction h with
  | here h => exact ⟨_, List.mem_cons_self, rfl⟩
  | later _ _ ih =>
    obtain ⟨c, hc, herror⟩ := ih
    exact ⟨c, List.mem_cons_of_mem _ hc, herror⟩

/-- There is a result, as `Result` says, if all conditions hold, and otherwise the error of the
first that does not. -/
structure Tells (x : Except ε α) (conditions : List (Prop × ε)) (Result : α → Prop) : Prop where
  error_iff : ∀ error, x = .error error ↔ FirstFails conditions error
  ok : ∀ a, x = .ok a → Result a ∧ ∀ c ∈ conditions, c.1

namespace Tells

variable {x : Except ε α} {condition : Prop} {error : ε} {rest : List (Prop × ε)}
  {Result : α → Prop}

/-- Without conditions there has to be a result. -/
theorem nil {a : α} (h : x = .ok a) (ha : Result a) : Tells x [] Result := by
  subst h
  refine ⟨fun error => iff_of_false nofun nofun, ?_⟩
  intro b hb
  obtain rfl := Except.ok.inj hb
  exact ⟨ha, by simp⟩

/-- One condition more in front of the others. -/
theorem cons (hfails : ¬ condition → x = .error error) (hholds : condition → Tells x rest Result) :
    Tells x ((condition, error) :: rest) Result := by
  by_cases h : condition
  · obtain ⟨herror, hok⟩ := hholds h
    refine ⟨fun other => (herror other).trans ⟨.later h, ?_⟩, ?_⟩
    · rintro (⟨h'⟩ | ⟨-, hrest⟩)
      · exact absurd h h'
      · exact hrest
    · intro a ha
      obtain ⟨hresult, hrest⟩ := hok a ha
      exact ⟨hresult, List.forall_mem_cons.mpr ⟨h, hrest⟩⟩
  · rw [hfails h]
    refine ⟨fun other => ⟨?_, ?_⟩, nofun⟩
    · intro hother
      obtain rfl := Except.error.inj hother
      exact .here h
    · rintro (⟨-⟩ | ⟨h', -⟩)
      · rfl
      · exact absurd h' h

/-- If all conditions hold there is a result. -/
theorem exists_ok (h : Tells x rest Result) (hall : ∀ c ∈ rest, c.1) : ∃ a, x = .ok a := by
  cases hx : x with
  | ok a => exact ⟨a, rfl⟩
  | error error => exact absurd hall ((h.error_iff error).mp hx).not_all

end Tells

end CredentialIssuer
