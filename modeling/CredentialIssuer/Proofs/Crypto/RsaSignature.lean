import CredentialIssuer.Proofs.Crypto.Rsa
import CredentialIssuer.Proofs.Text.Bytes

/-! A key of different primes that is long enough for a block takes its own signatures. -/
namespace CredentialIssuer.RsaSignature

/-- A hash has 32 bytes. -/
theorem length_digest (message : Bytes) : (Sha256.digest message).length = 32 := by
  simp [Sha256.digest, Sha256.State.bytes]

/-- The bytes that no block can do without. -/
theorem length_block {size : Nat} (h : 54 ≤ size) (message : Bytes) :
    (block size message).length = size := by
  have hname : hashName.length = 19 := rfl
  simp only [block, List.cons_append, List.length_cons, List.length_append, List.length_replicate,
    length_digest, hname]
  omega

/-- A block begins with a zero and stays below every modulus of its size. -/
private theorem toNat_block_lt {size : Nat} (h : 54 ≤ size) (message : Bytes) :
    Bytes.toNat (block size message) < 256 ^ (size - 1) := by
  have hlength := length_block h message
  obtain ⟨rest, hrest⟩ : ∃ rest, block size message = 0 :: rest := ⟨_, rfl⟩
  rw [hrest, List.length_cons] at hlength
  rw [hrest, Bytes.toNat_zero_cons, ← hlength, Nat.add_sub_cancel]
  exact Bytes.toNat_lt rest

def AcceptsOwn (key : Rsa.PrivateKey) : Prop :=
  ∀ message, verify key.toPublicKey message (sign key message) = true

/-- A sound key of different primes takes its own signatures from 1024 bits on. -/
theorem acceptsOwn_of_primes {key : Rsa.PrivateKey} (hsound : key.isSound = true)
    (hprimes : key.HasPrimes) (hbits : 2 ^ 1023 ≤ key.modulus) : AcceptsOwn key := by
  intro message
  have hsize : 54 ≤ key.size := by
    have hlt := Rsa.PublicKey.lt_size hbits
    omega
  have hblock : Bytes.toNat (block key.size message) < key.modulus :=
    (toNat_block_lt hsize message).trans_le
      (key.le_modulus (Rsa.PrivateKey.modulus_pos hsound).ne')
  have hsigned := Rsa.PrivateKey.apply_lt hsound (Bytes.toNat (block key.size message))
  have hvalue : Bytes.toNat (sign key message) =
      key.apply (Bytes.toNat (block key.size message)) :=
    Bytes.toNat_ofNat (hsigned.trans key.modulus_lt)
  have hback : Bytes.ofNat key.size (Bytes.toNat (block key.size message)) =
      block key.size message := by
    have hbytes := Bytes.ofNat_toNat (block key.size message)
    rwa [length_block hsize] at hbytes
  have hlength : (sign key message).length = key.size := Bytes.length_ofNat _ _
  simp [verify, hlength, hvalue, hsigned, hback,
    Rsa.PrivateKey.toPublicKey_apply_apply hsound hprimes hblock]

end CredentialIssuer.RsaSignature
