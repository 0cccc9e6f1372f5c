import CredentialIssuer.Proofs.Text.Utf8
import CredentialIssuer.Text.Percent

/-! ASCII characters, of which what holds of each of the 128 holds of all, and escapes: they are
undone byte by byte, and what is escaped holds only the characters that were let through and those
of escapes. -/
namespace CredentialIssuer

namespace Text

/-- To show of every ASCII character, show of each of the 128. -/
theorem forall_ascii {P : Char → Prop} (h : ∀ n < 128, P (Char.ofNat n)) {c : Char}
    (hc : c.toNat < 128) : P c := by
  have hn := h c.toNat hc
  rwa [Char.ofNat_toNat] at hn

/-- Letters and digits by their code points. -/
theorem isAlphanum_iff {c : Char} :
    c.isAlphanum = true ↔
      65 ≤ c.toNat ∧ c.toNat ≤ 90 ∨ 97 ≤ c.toNat ∧ c.toNat ≤ 122 ∨
        48 ≤ c.toNat ∧ c.toNat ≤ 57 := by
  delta Char.isAlphanum Char.isAlpha Char.isUpper Char.isLower Char.isDigit
  simp [UInt32.le_iff_toNat_le, ← Char.toNat_val, or_assoc]

end Text

namespace Percent

private def digitByte (n : Nat) : UInt8 := UInt8.ofNat (upperHex n).toNat

private theorem digitByte_spec :
    ∀ n < 16, String.utf8EncodeChar (upperHex n) = [digitByte n] ∧ digitByte n ≠ 43 ∧
      hexValue (digitByte n) = some n := by
  decide

/-- An escape is three ASCII characters: a percent sign and two hexadecimal digits. -/
theorem encode_encodeByte (b : UInt8) :
    ∃ high low, Utf8.encode (String.ofList (encodeByte b)) = [37, high, low] ∧
      high ≠ 43 ∧ low ≠ 43 ∧ hexValue high = some (b.toNat / 16) ∧
      hexValue low = some (b.toNat % 16) := by
  have hb := b.toNat_lt
  obtain ⟨hh, hp, hv⟩ := digitByte_spec (b.toNat / 16) (by omega)
  obtain ⟨lh, lp, lv⟩ := digitByte_spec (b.toNat % 16) (by omega)
  refine ⟨digitByte (b.toNat / 16), digitByte (b.toNat % 16), ?_, hp, lp, hv, lv⟩
  simp only [Utf8.encode_ofList, encodeByte, List.flatMap_cons, List.flatMap_nil, hh, lh]
  rfl

/-- The bytes of a character are those of the library. -/
theorem charBytes_eq (c : Char) : charBytes c = String.utf8EncodeChar c := by
  rw [charBytes, String.singleton_eq_ofList, Utf8.encode_ofList, List.flatMap_singleton]

/-- An escape is undone. -/
theorem decode_escape {high low : UInt8} {h l : Nat} (hh : hexValue high = some h)
    (hl : hexValue low = some l) (rest : Bytes) :
    decode (37 :: high :: low :: rest) = UInt8.ofNat (16 * h + l) :: decode rest := by
  simp only [decode, hh, hl]

/-- A byte that begins no escape is left as it is. -/
theorem decode_cons {b : UInt8} (h : b ≠ 37) (rest : Bytes) :
    decode (b :: rest) = b :: decode rest := by
  rw [decode.eq_def]
  split <;> simp_all

def IsEscape (c : Char) : Prop := c = '%' ∨ ∃ n < 16, c = upperHex n

/-- The characters of escapes do not separate pairs. -/
theorem isEscape_spec {c : Char} (h : IsEscape c) : c.toNat < 128 ∧ c ≠ '&' ∧ c ≠ '=' := by
  rcases h with rfl | ⟨n, hn, rfl⟩
  · decide
  · revert n
    decide

private theorem mem_encodeByte {c : Char} {b : UInt8} (h : c ∈ encodeByte b) : IsEscape c := by
  have hb := b.toNat_lt
  simp only [encodeByte, List.mem_cons, List.not_mem_nil, or_false] at h
  rcases h with rfl | rfl | rfl
  · exact .inl rfl
  · exact .inr ⟨_, by omega, rfl⟩
  · exact .inr ⟨_, by omega, rfl⟩

/-- A character of an escaped text is one of an escape or was let through. -/
theorem mem_encode {inSet : Char → Bool} {cs : List Char} {c : Char} (h : c ∈ encode inSet cs) :
    IsEscape c ∨ c ∈ cs ∧ inSet c = false ∧ c.toNat < 128 := by
  obtain ⟨d, hd, hc⟩ := List.mem_flatMap.mp h
  split at hc
  · obtain ⟨b, -, hb⟩ := List.mem_flatMap.mp hc
    exact .inl (mem_encodeByte hb)
  · rename_i hset
    obtain rfl := List.mem_singleton.mp hc
    simp only [Bool.or_eq_true, decide_eq_true_eq, not_or, Bool.not_eq_true, Nat.not_le] at hset
    exact .inr ⟨hd, hset⟩

end Percent

end CredentialIssuer
