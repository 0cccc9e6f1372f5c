import CredentialIssuer.Crypto.Oaep
import CredentialIssuer.Proofs.Crypto.RsaSignature

/-! What a key of different primes wraps, it unwraps. It wraps every message that leaves room for
two hashes and two bytes. -/
namespace CredentialIssuer.Oaep

def Unwraps (key : Rsa.PrivateKey) : Prop :=
  ∀ seed message wrapped, seed.length = hashLength →
    encrypt? key.toPublicKey seed message = some wrapped → decrypt? key wrapped = some message

/-- A message is refused exactly where the modulus has no room for it. -/
theorem encrypt?_eq_none_iff {key : Rsa.PublicKey} {seed message : Bytes} :
    encrypt? key seed message = none ↔ key.size < message.length + (2 * hashLength + 2) := by
  unfold encrypt?
  split
  · rename_i h
    rw [capacity] at h
    simp only [true_iff]
    omega
  · rename_i h
    rw [capacity] at h
    simp only [reduceCtorEq, false_iff]
    omega

private theorem length_mask (seed : Bytes) (length : Nat) : (mask seed length).length = length := by
  have hhashes : ((List.range ((length + hashLength - 1) / hashLength)).flatMap fun n =>
      Sha256.digest (seed ++ Bytes.ofNat 4 n)).length =
        32 * ((length + hashLength - 1) / hashLength) := by
    simp only [List.length_flatMap, RsaSignature.length_digest, List.map_const', List.length_range,
      List.sum_replicate_nat, Nat.mul_comm]
  rw [mask, List.length_take, hhashes, hashLength]
  omega

section Padding

variable {size : Nat} {seed message : Bytes}

/-- The block under the mask: the hash of the label, zeros, a one and the message. -/
def block (size : Nat) (message : Bytes) : Bytes :=
  labelHash ++ List.replicate (capacity size - message.length) 0 ++ 1 :: message

private theorem length_block (h : message.length + (2 * hashLength + 2) ≤ size) :
    (block size message).length = size - hashLength - 1 := by
  have hlabel : labelHash.length = hashLength := RsaSignature.length_digest []
  rw [block, List.length_append, List.length_append, hlabel, List.length_replicate,
    List.length_cons, capacity]
  omega

private theorem pad_eq (size : Nat) (seed message : Bytes) :
    pad size seed message =
      0 :: (Bytes.xor seed (mask (Bytes.xor (block size message)
        (mask seed (block size message).length)) hashLength) ++
          Bytes.xor (block size message) (mask seed (block size message).length)) := rfl

private theorem length_pad (hseed : seed.length = hashLength)
    (h : message.length + (2 * hashLength + 2) ≤ size) : (pad size seed message).length = size := by
  rw [pad_eq, List.length_cons, List.length_append, Bytes.length_xor, Bytes.length_xor, length_mask,
    length_mask, length_block h, hseed]
  omega

private theorem afterMarker?_replicate (n : Nat) (message : Bytes) :
    afterMarker? (List.replicate n 0 ++ 1 :: message) = some message := by
  have hzeros : ∀ b ∈ List.replicate n (0 : UInt8), (b == 0) = true := by
    intro b hb
    rw [(List.mem_replicate.mp hb).2]
    rfl
  rw [afterMarker?, List.dropWhile_append_of_pos hzeros]
  rfl

/-- Each mask is taken off with what it was put on with: first that of the seed, then that of the
block. -/
theorem unpad?_pad (hseed : seed.length = hashLength) :
    unpad? (pad size seed message) = some message := by
  have hlabel : labelHash.length = hashLength := RsaSignature.length_digest []
  let masked := Bytes.xor (block size message) (mask seed (block size message).length)
  let maskedSeed := Bytes.xor seed (mask masked hashLength)
  have hmasked : masked.length = (block size message).length := by
    rw [Bytes.length_xor, length_mask, Nat.min_self]
  have hmaskedSeed : maskedSeed.length = hashLength := by
    rw [Bytes.length_xor, length_mask, hseed, Nat.min_self]
  have hback : Bytes.xor maskedSeed (mask masked hashLength) = seed := by
    refine Bytes.xor_xor ?_
    rw [length_mask, hseed]
  have hblock : Bytes.xor masked (mask seed masked.length) = block size message := by
    rw [hmasked]
    refine Bytes.xor_xor ?_
    rw [length_mask]
  have hsplit : block size message =
      labelHash ++ (List.replicate (capacity size - message.length) 0 ++ 1 :: message) :=
    List.append_assoc _ _ _
  have hunpad : unpad? (0 :: (maskedSeed ++ masked)) =
      if (block size message).take hashLength = labelHash then
        afterMarker? ((block size message).drop hashLength)
      else none := by
    simp only [unpad?, List.take_left' hmaskedSeed, List.drop_left' hmaskedSeed, hback, hblock]
  rw [pad_eq, hunpad, hsplit, List.take_left' hlabel, List.drop_left' hlabel, if_pos rfl,
    afterMarker?_replicate]

end Padding

private theorem encrypt?_eq_some {key : Rsa.PublicKey} {seed message wrapped : Bytes}
    (h : encrypt? key seed message = some wrapped) :
    message.length + (2 * hashLength + 2) ≤ key.size ∧
      wrapped = Bytes.ofNat key.size (key.apply (Bytes.toNat (pad key.size seed message))) := by
  refine ⟨?_, ?_⟩
  · have hsome := encrypt?_eq_none_iff.not.mp (Option.ne_none_iff_exists'.mpr ⟨wrapped, h⟩)
    omega
  · unfold encrypt? at h
    split at h
    · cases h
    · exact (Option.some.inj h).symm

/-- The padded message begins with a zero byte and stays below the modulus. -/
private theorem toNat_pad_lt {key : Rsa.PublicKey} (hpos : 0 < key.modulus) {seed message : Bytes}
    (hlength : (pad key.size seed message).length = key.size) :
    Bytes.toNat (pad key.size seed message) < key.modulus := by
  obtain ⟨rest, hrest⟩ : ∃ rest, pad key.size seed message = 0 :: rest := ⟨_, pad_eq _ _ _⟩
  rw [hrest, List.length_cons] at hlength
  calc Bytes.toNat (pad key.size seed message)
      = Bytes.toNat rest := by rw [hrest, Bytes.toNat_zero_cons]
    _ < 256 ^ rest.length := Bytes.toNat_lt rest
    _ = 256 ^ (key.size - 1) := by rw [← hlength, Nat.add_sub_cancel]
    _ ≤ key.modulus := key.le_modulus hpos.ne'

/-- A sound key of different primes unwraps what it wraps. -/
theorem unwraps_of_primes {key : Rsa.PrivateKey} (hsound : key.isSound = true)
    (hprimes : key.HasPrimes) : Unwraps key := by
  intro seed message wrapped hseed hwrapped
  obtain ⟨hroom, rfl⟩ := encrypt?_eq_some hwrapped
  have hpad := length_pad hseed hroom
  have hbelow := toNat_pad_lt (Rsa.PrivateKey.modulus_pos hsound) hpad
  have hcipher := Rsa.PrivateKey.toPublicKey_apply_lt hsound
    (Bytes.toNat (pad key.size seed message))
  have hbytes := Bytes.ofNat_toNat (pad key.size seed message)
  rw [hpad] at hbytes
  rw [decrypt?, Bytes.toNat_ofNat (hcipher.trans key.modulus_lt), if_neg,
    Rsa.PrivateKey.apply_toPublicKey_apply hsound hprimes hbelow, hbytes, unpad?_pad hseed]
  rw [Bytes.length_ofNat]
  omega

end CredentialIssuer.Oaep
