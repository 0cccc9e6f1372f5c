import CredentialIssuer.Text.Digits

/-! Numbers are read back from their digits, written as long as they are or with a fixed width. -/
namespace CredentialIssuer.Text

private theorem isDigit_iff {c : Char} : isDigit c = true ↔ 48 ≤ c.toNat ∧ c.toNat ≤ 57 := by
  simp [isDigit, Char.le_def, UInt32.le_iff_toNat_le, ← Char.toNat_val]

def AllDigits (cs : List Char) : Prop := ∀ c ∈ cs, isDigit c = true

/-- A natural number is a nonempty run of digits. -/
theorem natural?_eq_some_iff {cs : List Char} {n : Nat} :
    natural? cs = some n ↔ cs ≠ [] ∧ AllDigits cs ∧ ofDigits cs = n := by
  simp only [natural?, AllDigits, Option.ite_none_right_eq_some, Bool.and_eq_true,
    Bool.not_eq_true', List.isEmpty_eq_false_iff, List.all_eq_true, Option.some.injEq, and_assoc]

section Decimal

theorem isDigit_of_mem_toDigits {n : Nat} {c : Char} (h : c ∈ Nat.toDigits 10 n) :
    isDigit c = true := by
  have hdigit : c.isDigit = true := Nat.isDigit_of_mem_toDigits (by decide) (by decide) h
  rw [isDigit_iff]
  simpa [Char.isDigit, UInt32.le_iff_toNat_le, ← Char.toNat_val] using hdigit

/-- No zero stands in front. -/
theorem head?_toDigits {n : Nat} (hn : 0 < n) : (Nat.toDigits 10 n).head? ≠ some '0' := by
  induction n using Nat.strongRecOn with
  | ind n ih =>
    rw [Nat.toDigits_eq_if (by decide)]
    split
    · rename_i hlt
      have hdigit : ∀ d < 10, 0 < d → Nat.digitChar d ≠ '0' := by decide
      simpa using hdigit n hlt hn
    · have hfront := ih (n / 10) (by omega) (by omega)
      obtain ⟨d, ds, hd⟩ := List.exists_cons_of_ne_nil (Nat.toDigits_ne_nil (n := n / 10) (b := 10))
      rw [hd] at hfront ⊢
      exact hfront

end Decimal

section Padded

theorem length_padded (width n : Nat) : (padded width n).length = width := by
  induction width generalizing n with
  | zero => rfl
  | succ width ih => simp [padded, ih]

private theorem digitChar_spec : ∀ d < 10,
    isDigit (Char.ofNat (48 + d)) = true ∧ digitValue (Char.ofNat (48 + d)) = d := by
  decide

theorem isDigit_of_mem_padded {width n : Nat} {c : Char} (h : c ∈ padded width n) :
    isDigit c = true := by
  induction width generalizing n with
  | zero => cases h
  | succ width ih =>
    rcases List.mem_append.mp h with h | h
    · exact ih h
    · obtain rfl := List.mem_singleton.mp h
      exact (digitChar_spec (n % 10) (by omega)).1

private theorem ofDigits_padded (width n : Nat) : ofDigits (padded width n) = n % 10 ^ width := by
  induction width generalizing n with
  | zero => simp [padded, ofDigits, Nat.mod_one]
  | succ width ih =>
    have hlast : digitValue (digitChar n) = n % 10 := (digitChar_spec (n % 10) (by omega)).2
    have hsplit : ofDigits (padded (width + 1) n) =
        10 * ofDigits (padded width (n / 10)) + digitValue (digitChar n) := by
      simp [padded, ofDigits, List.foldl_append]
    rw [hsplit, ih, hlast, Nat.pow_succ, Nat.mul_comm (10 ^ width), Nat.mod_mul]
    omega

/-- A number that fits its width is read off the front of a text. -/
theorem takeDigits?_padded {width n : Nat} (hn : n < 10 ^ width) (rest : List Char) :
    takeDigits? width (padded width n ++ rest) = some (n, rest) := by
  have htake : (padded width n ++ rest).take width = padded width n :=
    List.take_left' (length_padded width n)
  have hdrop : (padded width n ++ rest).drop width = rest :=
    List.drop_left' (length_padded width n)
  have hall : (padded width n).all isDigit = true :=
    List.all_eq_true.mpr fun c hc => isDigit_of_mem_padded hc
  simp [takeDigits?, htake, hdrop, hall, length_padded, ofDigits_padded, Nat.mod_eq_of_lt hn]

end Padded

end CredentialIssuer.Text
