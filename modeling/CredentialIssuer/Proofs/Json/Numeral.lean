import CredentialIssuer.Json.Printer
import CredentialIssuer.Json.Numeral
import CredentialIssuer.Proofs.Text.Digits

/-! Whole numbers of 64 bits are read back from the digits they are written with. -/
namespace CredentialIssuer.Json

/-- The whole numbers that stay exact. -/
def fits (n : Int) : Bool := minInt64 ≤ n && n ≤ maxUInt64

namespace Numeral

private theorem le_ofDigitChars (init : Nat) (cs : List Char) :
    init ≤ Nat.ofDigitChars 10 cs init := by
  rw [Nat.ofDigitChars_eq_ofDigitChars_zero]
  have hpos := Nat.pow_pos (n := cs.length) (show 0 < 10 by decide)
  exact Nat.le_add_right_of_le (Nat.le_mul_of_pos_left init hpos)

/-- Digits are all absorbed as long as the number they make up stays within 64 bits. -/
private theorem absorb_eq {significand taken : Nat} {cs : List Char}
    (h : Nat.ofDigitChars 10 cs significand < 2 ^ 64) :
    absorb significand taken cs = (Nat.ofDigitChars 10 cs significand, taken + cs.length) := by
  induction cs generalizing significand taken with
  | nil => simp [absorb]
  | cons c cs ih =>
    rw [Nat.ofDigitChars_cons] at h ⊢
    have hnext := le_ofDigitChars (10 * significand + (c.toNat - '0'.toNat)) cs
    have hlt : 10 * significand + Text.digitValue c < 2 ^ 64 := Nat.lt_of_le_of_lt hnext h
    rw [absorb, if_pos hlt, List.length_cons, Nat.add_comm cs.length, ← Nat.add_assoc]
    exact ih h

private theorem absorb_toDigits {n : Nat} (h : n < 2 ^ 64) :
    absorb 0 0 (Nat.toDigits 10 n) = (n, (Nat.toDigits 10 n).length) := by
  have hvalue : Nat.ofDigitChars 10 (Nat.toDigits 10 n) 0 = n := Nat.ofDigitChars_ten_toDigits
  rw [absorb_eq (by rwa [hvalue]), hvalue, Nat.zero_add]

private theorem takeWhile_toDigits (n : Nat) :
    (Nat.toDigits 10 n).takeWhile Text.isDigit = Nat.toDigits 10 n ∧
      (Nat.toDigits 10 n).dropWhile Text.isDigit = [] := by
  have hall : ∀ c ∈ Nat.toDigits 10 n, Text.isDigit c = true :=
    fun c hc => Text.isDigit_of_mem_toDigits hc
  have htake : (Nat.toDigits 10 n ++ []).takeWhile Text.isDigit = _ :=
    List.takeWhile_append_of_pos hall
  have hdrop : (Nat.toDigits 10 n ++ []).dropWhile Text.isDigit = _ :=
    List.dropWhile_append_of_pos hall
  exact ⟨by simpa using htake, by simpa using hdrop⟩

private theorem whole_toDigits (n : Nat) :
    ((Nat.toDigits 10 n).isEmpty ||
      ((Nat.toDigits 10 n).head? == some '0' && (Nat.toDigits 10 n).length != 1)) = false := by
  rcases Nat.eq_zero_or_pos n with rfl | hn
  · rfl
  · have hhead : ((Nat.toDigits 10 n).head? == some '0') = false := by
      simpa using Text.head?_toDigits hn
    simp [hhead, Nat.toDigits_ne_nil]

private theorem ofChars?_toDigits (n : Nat) :
    ofChars? (Nat.toDigits 10 n) = some ⟨false, Nat.toDigits 10 n, none, none⟩ := by
  obtain ⟨htake, hdrop⟩ := takeWhile_toDigits n
  have hwhole := whole_toDigits n
  obtain ⟨d, ds, hd⟩ := List.exists_cons_of_ne_nil (Nat.toDigits_ne_nil (n := n) (b := 10))
  have hsign : d ≠ '-' := by
    rintro rfl
    have hdigit := Text.isDigit_of_mem_toDigits (n := n) (hd ▸ List.mem_cons_self)
    exact absurd hdigit (by decide)
  rw [hd] at htake hdrop hwhole ⊢
  simpa [ofChars?, hsign, htake, hdrop, fractionPart?, exponentPart?] using hwhole

private theorem ofChars?_minus_toDigits (n : Nat) :
    ofChars? ('-' :: Nat.toDigits 10 n) = some ⟨true, Nat.toDigits 10 n, none, none⟩ := by
  obtain ⟨htake, hdrop⟩ := takeWhile_toDigits n
  simpa [ofChars?, htake, hdrop, fractionPart?, exponentPart?] using whole_toDigits n

private theorem number?_toDigits {n : Nat} (h : n < 2 ^ 64) :
    number? ⟨false, Nat.toDigits 10 n, none, none⟩ = some (.integer n) := by
  simp [number?, absorb_toDigits h]

private theorem number?_minus_toDigits {n : Nat} (hpos : 0 < n) (h : n ≤ 2 ^ 63) :
    number? ⟨true, Nat.toDigits 10 n, none, none⟩ = some (.integer (-n)) := by
  have hrange : ¬ (n = 0 ∨ 2 ^ 63 < n) := by omega
  simp only [number?, absorb_toDigits (show n < 2 ^ 64 by omega)]
  rw [if_pos (by omega), if_neg (by decide), if_neg hrange]

end Numeral

private theorem integer_chars_eq (n : Int) :
    (Number.integer n).chars = match n with
      | .ofNat m => Nat.toDigits 10 m
      | .negSucc m => '-' :: Nat.toDigits 10 (m + 1) := by
  cases n with
  | ofNat m => exact Nat.toList_repr
  | negSucc m =>
    have htext : toString (Int.negSucc m) = "-" ++ Nat.repr (m + 1) := rfl
    rw [Number.chars, htext, String.toList_append, Nat.toList_repr]
    rfl

/-- What a whole number is written as is a numeral, and stands for that number. -/
theorem readNumeral_integer {n : Int} (h : fits n = true) :
    ∃ numeral, Numeral.ofChars? (Number.integer n).chars = some numeral ∧
      numeral.number? = some (.integer n) := by
  simp only [fits, Bool.and_eq_true, decide_eq_true_eq] at h
  obtain ⟨hlow, hhigh⟩ := h
  simp only [minInt64, maxUInt64] at hlow hhigh
  rw [integer_chars_eq]
  cases n with
  | ofNat m =>
    rw [Int.ofNat_eq_natCast] at hhigh
    exact ⟨_, Numeral.ofChars?_toDigits m, Numeral.number?_toDigits (by omega)⟩
  | negSucc m =>
    refine ⟨_, Numeral.ofChars?_minus_toDigits (m + 1), ?_⟩
    rw [Numeral.number?_minus_toDigits (by omega) (by omega)]
    rfl

/-- A whole number is written with characters of numerals. -/
theorem isNumeralChar_of_mem_integer {n : Int} {c : Char} (h : c ∈ (Number.integer n).chars) :
    isNumeralChar c = true := by
  have hdigit {m : Nat} (h : c ∈ Nat.toDigits 10 m) : isNumeralChar c = true := by
    simp [isNumeralChar, Text.isDigit_of_mem_toDigits h]
  rw [integer_chars_eq] at h
  cases n with
  | ofNat m => exact hdigit h
  | negSucc m =>
    rcases List.mem_cons.mp h with rfl | h
    · rfl
    · exact hdigit h

theorem integer_chars_ne_nil (n : Int) : (Number.integer n).chars ≠ [] := by
  rw [integer_chars_eq]
  cases n with
  | ofNat m => exact Nat.toDigits_ne_nil
  | negSucc m => exact List.cons_ne_nil _ _

end CredentialIssuer.Json
