import CredentialIssuer.Crypto.Gcm
import CredentialIssuer.Proofs.Text.Bytes

/-! Over a cipher of 16-byte blocks, opening undoes sealing, and nothing opens but what was
sealed. -/
namespace CredentialIssuer.Gcm

def keyStream (cipher : Bytes → Bytes) (nonce : Bytes) : (counter count : Nat) → Bytes
  | _, 0 => []
  | counter, count + 1 =>
    cipher (counterBlock nonce counter) ++ keyStream cipher nonce (counter + 1) count

section Cover

variable {cipher : Bytes → Bytes} (hcipher : ∀ block, (cipher block).length = 16) (nonce : Bytes)

include hcipher

private theorem length_keyStream (counter count : Nat) :
    (keyStream cipher nonce counter count).length = 16 * count := by
  induction count generalizing counter with
  | zero => rfl
  | succ count ih =>
    rw [keyStream, List.length_append, hcipher, ih]
    omega

private theorem cover_blocksOf {count : Nat} {message : Bytes} (h : message.length ≤ 16 * count)
    (counter : Nat) :
    cover cipher nonce counter (blocksOf count message) =
      Bytes.xor message (keyStream cipher nonce counter count) := by
  induction count generalizing counter message with
  | zero =>
    obtain rfl : message = [] := List.eq_nil_of_length_eq_zero (by omega)
    rfl
  | succ count ih =>
    have hrest : (message.drop 16).length ≤ 16 * count := by
      rw [List.length_drop]
      omega
    rw [blocksOf, cover, ih hrest, keyStream, Bytes.xor_append, hcipher]

private theorem coverAll_eq (message : Bytes) :
    coverAll cipher nonce message =
      Bytes.xor message (keyStream cipher nonce 2 (blockCount message)) := by
  refine cover_blocksOf hcipher nonce ?_ 2
  rw [blockCount]
  omega

private theorem length_coverAll (message : Bytes) :
    (coverAll cipher nonce message).length = message.length := by
  rw [coverAll_eq hcipher, Bytes.length_xor, length_keyStream hcipher, blockCount]
  omega

/-- Covering a message twice gives it back. -/
theorem coverAll_coverAll (message : Bytes) :
    coverAll cipher nonce (coverAll cipher nonce message) = message := by
  have hcount : blockCount (coverAll cipher nonce message) = blockCount message := by
    rw [blockCount, blockCount, length_coverAll hcipher]
  rw [coverAll_eq hcipher nonce (coverAll cipher nonce message), hcount, coverAll_eq hcipher]
  refine Bytes.xor_xor ?_
  rw [length_keyStream hcipher, blockCount]
  omega

private theorem length_tag (extra ciphertext : Bytes) :
    (tag cipher nonce extra ciphertext).length = tagLength := by
  rw [tag, Bytes.length_xor, Bytes.length_ofNat, hcipher, Nat.min_self, tagLength]

/-- The ciphertext is as long as the message, and the tag has its fixed length. -/
theorem lengths_encrypt (extra message : Bytes) :
    (encrypt cipher nonce extra message).1.length = message.length ∧
      (encrypt cipher nonce extra message).2.length = tagLength := by
  simp only [encrypt, length_coverAll hcipher, length_tag hcipher, and_self]

/-- A message comes out exactly when it is what goes in. -/
theorem decrypt?_eq_some_iff {extra ciphertext expected message : Bytes} :
    decrypt? cipher nonce extra ciphertext expected = some message ↔
      encrypt cipher nonce extra message = (ciphertext, expected) := by
  rw [decrypt?, encrypt, Prod.mk.injEq]
  constructor
  · intro h
    split at h
    · rename_i htag
      obtain rfl := Option.some.inj h
      rw [coverAll_coverAll hcipher]
      exact ⟨rfl, htag⟩
    · cases h
  · rintro ⟨rfl, rfl⟩
    rw [if_pos rfl, coverAll_coverAll hcipher]

end Cover

end CredentialIssuer.Gcm
