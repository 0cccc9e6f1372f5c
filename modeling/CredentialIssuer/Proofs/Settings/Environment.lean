import CredentialIssuer.Proofs.Number.Extended
import CredentialIssuer.Proofs.Settings.Path
import CredentialIssuer.Settings.Environment

/-! Which text is read from a variable whose value is taken for a switch or a number first. -/
namespace CredentialIssuer.Settings.Environment

open Text Extended

def IsSwitch (v : String) : Prop := v.toLower = "true" ∨ v.toLower = "false"

/-- Digits after a sign or none, and the number that they spell. -/
def Spells (cs : List Char) (n : Int) : Prop :=
  ∃ sign digits, IsSign sign ∧ digits ≠ [] ∧ AllDigits digits ∧ cs = sign ++ digits ∧
    n = signValue sign * ofDigits digits

def IsWhole (cs : List Char) (n : Int) : Prop :=
  Spells cs n ∧ Json.minInt64 ≤ n ∧ n ≤ Json.maxInt64

/-- The text that a variable stands for where a text is wanted: switches and numbers are written
anew, all else is left as it is. -/
inductive Arrives (v : String) : String → Prop where
  | switch (b : Bool) (h : v.toLower = Tree.boolText b) : Arrives v (Tree.boolText b)
  | whole (n : Int) (hswitch : ¬ IsSwitch v) (h : IsWhole v.toList n) : Arrives v (toString n)
  | float (x : Extended) (hswitch : ¬ IsSwitch v) (hwhole : ∀ n, ¬ IsWhole v.toList n)
    (h : Extended.ofChars? v.toList = some x) : Arrives v x.plainText
  | plain (hswitch : ¬ IsSwitch v) (hnumeral : ¬ IsNumeral v.toList) : Arrives v v

variable {v text : String} {cs : List Char} {n : Int}

/-- Which texts are read as whole numbers. -/
theorem signedInteger?_eq_some_iff : signedInteger? cs = some n ↔ IsWhole cs n := by
  constructor
  · intro h
    obtain ⟨⟨k, digits⟩, hsigned, h⟩ := Option.bind_eq_some_iff.mp h
    obtain ⟨m, hdigits, h⟩ := Option.bind_eq_some_iff.mp h
    obtain ⟨hne, hall, rfl⟩ := natural?_eq_some_iff.mp hdigits
    obtain ⟨sign, hsign, rfl, rfl⟩ := exists_sign hsigned
    obtain ⟨hrange, h⟩ := Option.ite_none_right_eq_some.mp h
    obtain rfl := Option.some.inj h
    exact ⟨⟨sign, digits, hsign, hne, hall, rfl, rfl⟩, hrange⟩
  · rintro ⟨⟨sign, digits, hsign, hne, hall, rfl, rfl⟩, hrange⟩
    have hdigits := natural?_eq_some_iff.mpr ⟨hne, hall, rfl⟩
    simp [signedInteger?, signed?_append hsign (unsigned_of_allDigits hall), hdigits, hrange]

private theorem IsWhole.isNumeral (h : IsWhole cs n) : IsNumeral cs := by
  obtain ⟨⟨sign, digits, hsign, hne, hall, rfl, -⟩, -⟩ := h
  exact ⟨sign, digits, hsign,
    .inr ⟨digits, [], [], [], hall, .inl ⟨rfl, rfl⟩, nofun, .inl hne, .inl rfl, by simp⟩, rfl⟩

/-- Every text arrives as something. -/
theorem exists_arrives (v : String) : ∃ text, Arrives v text := by
  by_cases hswitch : IsSwitch v
  · rcases hswitch with htrue | hfalse
    · exact ⟨_, .switch true htrue⟩
    · exact ⟨_, .switch false hfalse⟩
  · by_cases hwhole : ∃ n, IsWhole v.toList n
    · obtain ⟨n, hn⟩ := hwhole
      exact ⟨_, .whole n hswitch hn⟩
    · by_cases hnumeral : IsNumeral v.toList
      · obtain ⟨x, hx⟩ := Option.isSome_iff_exists.mp (ofChars?_isSome_iff.mpr hnumeral)
        exact ⟨_, .float x hswitch (not_exists.mp hwhole) hx⟩
      · exact ⟨_, .plain hswitch hnumeral⟩

private theorem signedInteger?_eq_none (h : ∀ n, ¬ IsWhole cs n) : signedInteger? cs = none :=
  Option.eq_none_iff_forall_ne_some.mpr fun n hn => h n (signedInteger?_eq_some_iff.mp hn)

/-- Where a text is wanted, the guess of a type is undone as the rules say. -/
theorem Arrives.asText?_guess (h : Arrives v text) : (guess v).asText? = some text := by
  cases h with
  | switch b h => cases b <;> simp [guess, h, Tree.boolText, Tree.asText?]
  | whole n hswitch h =>
    obtain ⟨htrue, hfalse⟩ := not_or.mp hswitch
    simp [guess, htrue, hfalse, signedInteger?_eq_some_iff.mpr h, Tree.asText?]
  | float x hswitch hwhole h =>
    obtain ⟨htrue, hfalse⟩ := not_or.mp hswitch
    simp [guess, htrue, hfalse, signedInteger?_eq_none hwhole, h, Tree.asText?]
  | plain hswitch hnumeral =>
    obtain ⟨htrue, hfalse⟩ := not_or.mp hswitch
    have hwhole : ∀ n, ¬ IsWhole v.toList n := fun n hn => hnumeral hn.isNumeral
    have hnone : Extended.ofChars? v.toList = none := by
      rwa [← Option.not_isSome_iff_eq_none, ofChars?_isSome_iff]
    simp [guess, htrue, hfalse, signedInteger?_eq_none hwhole, hnone, Tree.asText?]

/-- A text arrives in one way. -/
theorem Arrives.unique {other : String} (h : Arrives v text) (hother : Arrives v other) :
    text = other :=
  Option.some.inj (h.asText?_guess.symm.trans hother.asText?_guess)

/-- Nothing arrives as the empty text but itself. -/
theorem Arrives.ne_empty (h : Arrives v text) (hv : v ≠ "") : text ≠ "" := by
  cases h with
  | switch b _ => cases b <;> decide
  | whole n _ _ =>
    rw [Int.toString_eq_repr]
    cases n with
    | ofNat n => exact Nat.repr_ne_empty
    | negSucc n => simp [Int.repr]
  | float x _ _ _ => exact x.plainText_ne_empty
  | plain _ _ => exact hv

/-- No variable holds a table. -/
theorem guess_ne_table (v : String) (inner : Tree.Entries) : guess v ≠ .table inner := by
  obtain ⟨text, h⟩ := exists_arrives v
  intro htable
  have htext := h.asText?_guess
  rw [htable] at htext
  cases htext

/-- Variables are laid over one after the other. -/
theorem overlay_append (before after : Bindings) (entries : Tree.Entries) :
    overlay (before ++ after) entries = overlay after (overlay before entries) :=
  List.foldl_append

/-- The first variable goes below all others. -/
theorem overlay_cons {name : String} {path : Path} (h : path? name = some path) (v : String)
    (after : Bindings) (entries : Tree.Entries) :
    overlay ((name, v) :: after) entries = overlay after (path.set (guess v) entries) := by
  simp only [overlay, List.foldl_cons, h]

private theorem overlay_cons_of_none {name : String} (h : path? name = none) (v : String)
    (after : Bindings) (entries : Tree.Entries) :
    overlay ((name, v) :: after) entries = overlay after entries := by
  simp only [overlay, List.foldl_cons, h]

/-- No variable names what lies on the way along some names, or below its end. -/
def Apart (names : List String) (bindings : Bindings) : Prop :=
  ∀ b ∈ bindings, ∀ path, path? b.1 = some path →
    Path.isApart names (.key path.root :: path.steps) = true

/-- Variables that are apart from a place leave there what makes two trees differ. -/
theorem differsAt_overlay {names : List String} {bindings : Bindings} {value : Tree}
    {entries old : Tree.Entries} (hapart : Apart names bindings)
    (h : Path.DiffersAt value names (.table entries) (.table old)) :
    Path.DiffersAt value names (.table (overlay bindings entries))
      (.table (overlay bindings old)) := by
  induction bindings generalizing entries old with
  | nil => exact h
  | cons b rest ih =>
    obtain ⟨name, v⟩ := b
    have hrest : Apart names rest := fun b hb => hapart b (List.mem_cons_of_mem _ hb)
    cases hpath : path? name with
    | none =>
      rw [overlay_cons_of_none hpath, overlay_cons_of_none hpath]
      exact ih hrest h
    | some path =>
      rw [overlay_cons hpath, overlay_cons hpath]
      refine ih hrest ?_
      rw [Path.table_set, Path.table_set]
      exact h.changeAt (hapart _ List.mem_cons_self path hpath)

end CredentialIssuer.Settings.Environment
