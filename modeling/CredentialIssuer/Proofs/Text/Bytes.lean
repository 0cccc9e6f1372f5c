import CredentialIssuer.Text.Bytes
import CredentialIssuer.Text.Digits
import Mathlib.Data.List.Induction

/-! Bytes are read back from their hexadecimal digits, and are the digits of their value. What was
covered by exclusive or is uncovered by it. -/
namespace CredentialIssuer.Bytes

private theorem hexDigit_spec : ∀ n < 16,
    Text.digitIn? 16 (hexDigit n) = some n ∧ hexDigit n ≠ '-' := by
  decide

/-- Bytes are read back from their hexadecimal text. -/
theorem ofHex?_toHex (bytes : Bytes) : ofHex? (toHex bytes) = some bytes := by
  have hread (acc : Bytes) : readHex acc
      (bytes.flatMap fun b => [hexDigit (b.toNat / 16), hexDigit (b.toNat % 16)]) =
        some (acc.reverse ++ bytes) := by
    induction bytes generalizing acc with
    | nil => simp [readHex]
    | cons b bytes ih =>
      have hb := b.toNat_lt
      have hhigh := (hexDigit_spec (b.toNat / 16) (by omega)).1
      have hlow := (hexDigit_spec (b.toNat % 16) (by omega)).1
      have hbyte : UInt8.ofNat (16 * (b.toNat / 16) + b.toNat % 16) = b := by
        rw [Nat.div_add_mod, UInt8.ofNat_toNat]
      simp only [List.flatMap_cons, List.cons_append, List.nil_append, readHex, hhigh, hlow, hbyte,
        ih, List.reverse_cons, List.append_assoc]
  rw [ofHex?, toHex, String.toList_ofList, hread]
  rfl

theorem hyphen_not_mem_toHex (bytes : Bytes) : '-' ∉ (toHex bytes).toList := by
  rw [toHex, String.toList_ofList]
  intro h
  obtain ⟨b, -, hb⟩ := List.mem_flatMap.mp h
  have hlt := b.toNat_lt
  simp only [List.mem_cons, List.not_mem_nil, or_false] at hb
  rcases hb with hb | hb
  · exact (hexDigit_spec _ (by omega)).2 hb.symm
  · exact (hexDigit_spec _ (by omega)).2 hb.symm

theorem length_toHex (bytes : Bytes) : (toHex bytes).toList.length = 2 * bytes.length := by
  rw [toHex, String.toList_ofList]
  induction bytes with
  | nil => rfl
  | cons b bytes ih =>
    rw [List.flatMap_cons, List.length_append, ih, List.length_cons]
    simp only [List.length_cons, List.length_nil]
    omega

section Value

private theorem toNat_append_singleton (bytes : Bytes) (b : UInt8) :
    toNat (bytes ++ [b]) = 256 * toNat bytes + b.toNat := by
  simp [toNat]

theorem toNat_zero_cons (bytes : Bytes) : toNat (0 :: bytes) = toNat bytes := rfl

/-- So many bytes hold no larger number. -/
theorem toNat_lt (bytes : Bytes) : toNat bytes < 256 ^ bytes.length := by
  induction bytes using List.reverseRecOn with
  | nil => decide
  | append_singleton bytes b ih =>
    have hb := b.toNat_lt
    rw [toNat_append_singleton, List.length_append, List.length_singleton, Nat.pow_succ]
    omega

@[simp] theorem length_ofNat (width n : Nat) : (ofNat width n).length = width := by
  induction width generalizing n with
  | zero => rfl
  | succ width ih => rw [ofNat, List.length_append, ih, List.length_singleton]

/-- A number that fits into so many bytes is read back from them. -/
theorem toNat_ofNat {width n : Nat} (h : n < 256 ^ width) : toNat (ofNat width n) = n := by
  induction width generalizing n with
  | zero =>
    rw [Nat.pow_zero] at h
    obtain rfl : n = 0 := by omega
    rfl
  | succ width ih =>
    have hdigit : (UInt8.ofNat (n % 256)).toNat = n % 256 :=
      UInt8.toNat_ofNat_of_lt (Nat.mod_lt n (by decide))
    rw [Nat.pow_succ] at h
    rw [ofNat, toNat_append_singleton, ih (by omega), hdigit]
    omega

/-- Bytes are read back from their number if their count is known. -/
theorem ofNat_toNat (bytes : Bytes) : ofNat bytes.length (toNat bytes) = bytes := by
  induction bytes using List.reverseRecOn with
  | nil => rfl
  | append_singleton bytes b ih =>
    have hb := b.toNat_lt
    have hdiv : (256 * toNat bytes + b.toNat) / 256 = toNat bytes := by omega
    have hmod : (256 * toNat bytes + b.toNat) % 256 = b.toNat := by omega
    rw [toNat_append_singleton, List.length_append, List.length_singleton, ofNat, hdiv, hmod, ih,
      UInt8.ofNat_toNat]

end Value

section Xor

@[simp] theorem length_xor (a b : Bytes) : (xor a b).length = min a.length b.length :=
  List.length_zipWith

/-- An operand in two parts covers the other operand in two parts, as far as that goes. -/
theorem xor_append (a b c : Bytes) :
    xor a (b ++ c) = xor (a.take b.length) b ++ xor (a.drop b.length) c := by
  induction b generalizing a with
  | nil => simp [xor]
  | cons x b ih =>
    cases a with
    | nil => simp [xor]
    | cons y a => simpa [xor] using ih a

/-- What is covered twice is bare again. -/
theorem xor_xor {a b : Bytes} (h : a.length ≤ b.length) : xor (xor a b) b = a := by
  induction a generalizing b with
  | nil => rfl
  | cons x a ih =>
    cases b with
    | nil => simp at h
    | cons y b =>
      have hrest : xor (xor a b) b = a := ih (Nat.le_of_succ_le_succ h)
      have hbyte : x ^^^ y ^^^ y = x := by rw [UInt8.xor_assoc, UInt8.xor_self, UInt8.xor_zero]
      simp only [xor, List.zipWith_cons_cons, hbyte] at hrest ⊢
      rw [hrest]

end Xor

end CredentialIssuer.Bytes
