import CredentialIssuer.Crypto.Rsa
import Mathlib.FieldTheory.Finite.Basic

/-! The two operations of an RSA key undo each other when its factors are different primes. The
key's own conditions do not say so much. -/
namespace CredentialIssuer.Rsa

/-- Squaring and halving computes the power. -/
theorem powMod_eq (base exponent modulus : Nat) :
    powMod base exponent modulus = base ^ exponent % modulus := by
  induction base, exponent using powMod.induct modulus with
  | case1 base => rw [powMod, if_pos rfl, Nat.pow_zero]
  | case2 base exponent hpos hodd ih =>
    have hexponent : exponent = 2 * (exponent / 2) + 1 := by omega
    have hsquare : base ^ exponent = base * (base * base) ^ (exponent / 2) := by
      rw [← Nat.pow_two, ← Nat.pow_mul, Nat.mul_comm base, ← Nat.pow_succ, Nat.succ_eq_add_one,
        ← hexponent]
    rw [powMod, if_neg hpos, ih, ← Nat.pow_mod, hsquare]
    exact (if_pos hodd).trans (Nat.mul_mod_mod _ _ _)
  | case3 base exponent hpos heven ih =>
    have hexponent : exponent = 2 * (exponent / 2) := by omega
    have hsquare : base ^ exponent = (base * base) ^ (exponent / 2) := by
      rw [← Nat.pow_two, ← Nat.pow_mul, ← hexponent]
    rw [powMod, if_neg hpos, ih, ← Nat.pow_mod, hsquare]
    exact if_neg heven

/-- An exponent that is one modulo `p - 1` changes nothing modulo a prime `p`. -/
private theorem pow_modEq_self {p exponent : Nat} (hp : p.Prime) (hpos : 0 < exponent)
    (h : exponent ≡ 1 [MOD p - 1]) (n : Nat) : n ^ exponent ≡ n [MOD p] := by
  have hdvd : p - 1 ∣ exponent - 1 := (Nat.modEq_iff_dvd' hpos).mp h.symm
  have hpow := Int.ModEq.pow_eq_pow hp hdvd hpos Nat.one_pos n
  rwa [pow_one, ← Nat.cast_pow, Int.natCast_modEq_iff] at hpow

namespace PublicKey

/-- The modulus fits into its size. -/
theorem modulus_lt (key : PublicKey) : key.modulus < 256 ^ key.size := by
  have hbits : key.modulus.log2 + 1 ≤ 8 * key.size := by
    rw [size]
    omega
  calc key.modulus < 2 ^ (key.modulus.log2 + 1) := Nat.lt_log2_self
    _ ≤ 2 ^ (8 * key.size) := Nat.pow_le_pow_right (by decide) hbits
    _ = 256 ^ key.size := Nat.pow_mul 2 8 key.size

/-- The size has no byte to spare. -/
theorem le_modulus (key : PublicKey) (h : key.modulus ≠ 0) :
    256 ^ (key.size - 1) ≤ key.modulus := by
  have hbits : 8 * (key.size - 1) ≤ key.modulus.log2 := by
    rw [size]
    omega
  calc 256 ^ (key.size - 1) = 2 ^ (8 * (key.size - 1)) := (Nat.pow_mul 2 8 _).symm
    _ ≤ 2 ^ key.modulus.log2 := Nat.pow_le_pow_right (by decide) hbits
    _ ≤ key.modulus := Nat.log2_self_le h

/-- A modulus of so many bits takes more than an eighth as many bytes. -/
theorem lt_size {key : PublicKey} {bits : Nat} (h : 2 ^ bits ≤ key.modulus) :
    bits / 8 < key.size := by
  have hmodulus : key.modulus ≠ 0 := by
    have hpos := Nat.pow_pos (n := bits) (show 0 < 2 by decide)
    omega
  have hlog := (Nat.le_log2 hmodulus).mpr h
  rw [size]
  omega

end PublicKey

namespace PrivateKey

variable {key : PrivateKey}

def HasPrimes (key : PrivateKey) : Prop :=
  key.primes.1.Prime ∧ key.primes.2.Prime ∧ key.primes.1 ≠ key.primes.2

private theorem isSound_iff : key.isSound = true ↔
    key.toPublicKey.isSound = true ∧ 2 ≤ key.primes.1 ∧ 2 ≤ key.primes.2 ∧
      key.primes.1 * key.primes.2 = key.modulus ∧
      key.exponent * key.privateExponent ≡ 1 [MOD key.primes.1 - 1] ∧
      key.exponent * key.privateExponent ≡ 1 [MOD key.primes.2 - 1] := by
  simp [isSound, invertsFor, Nat.ModEq, and_assoc]

/-- No document holds a key that is not sound. -/
theorem isSound_of_ofPem? {text : String} (h : ofPem? text = some key) : key.isSound = true := by
  have helements {parts : List Der.Element} (h : ofElements? parts = some key) :
      key.isSound = true := by
    unfold ofElements? at h
    obtain ⟨numbers, -, h⟩ := Option.bind_eq_some_iff.mp h
    split at h
    · dsimp only at h
      split at h
      · rename_i hsound
        obtain rfl := Option.some.inj h
        exact hsound
      · cases h
    · cases h
  have hder {bytes : Bytes} (h : ofDer? bytes = some key) : key.isSound = true := by
    obtain ⟨parts, -, h⟩ := Option.bind_eq_some_iff.mp h
    exact helements h
  rcases Option.or_eq_some_iff.mp h with h | ⟨-, h⟩
  · obtain ⟨bytes, -, h⟩ := Option.bind_eq_some_iff.mp h
    unfold ofWrapped? at h
    obtain ⟨parts, -, h⟩ := Option.bind_eq_some_iff.mp h
    split at h
    · obtain ⟨version, -, h⟩ := Option.bind_eq_some_iff.mp h
      split at h
      · exact hder h
      · cases h
    · cases h
  · obtain ⟨bytes, -, h⟩ := Option.bind_eq_some_iff.mp h
    exact hder h

theorem modulus_pos (h : key.isSound = true) : 0 < key.modulus := by
  obtain ⟨-, hp, hq, hmodulus, -, -⟩ := isSound_iff.mp h
  rw [← hmodulus]
  exact Nat.mul_pos (by omega) (by omega)

theorem apply_lt (h : key.isSound = true) (n : Nat) : key.apply n < key.modulus := by
  rw [apply, powMod_eq]
  exact Nat.mod_lt _ (modulus_pos h)

/-- What the public key gives stays below the modulus. -/
theorem toPublicKey_apply_lt (h : key.isSound = true) (n : Nat) :
    key.toPublicKey.apply n < key.modulus := by
  rw [PublicKey.apply, powMod_eq]
  exact Nat.mod_lt _ (modulus_pos h)

/-- Both operations after each other change nothing, in whichever order. -/
theorem pow_modEq (h : key.isSound = true) (hprimes : key.HasPrimes) (n : Nat) :
    n ^ (key.exponent * key.privateExponent) ≡ n [MOD key.modulus] := by
  obtain ⟨-, -, -, hmodulus, hinvp, hinvq⟩ := isSound_iff.mp h
  obtain ⟨hp, hq, hne⟩ := hprimes
  have hpos : 0 < key.exponent * key.privateExponent := by
    rw [Nat.pos_iff_ne_zero]
    intro hzero
    rw [hzero] at hinvp hinvq
    have hp' := Nat.dvd_one.mp ((Nat.modEq_iff_dvd' Nat.one_pos.le).mp hinvp)
    have hq' := Nat.dvd_one.mp ((Nat.modEq_iff_dvd' Nat.one_pos.le).mp hinvq)
    omega
  rw [← hmodulus, ← Nat.modEq_and_modEq_iff_modEq_mul ((Nat.coprime_primes hp hq).mpr hne)]
  exact ⟨pow_modEq_self hp hpos hinvp n, pow_modEq_self hq hpos hinvq n⟩

/-- What was signed with the private part comes back through the public one. -/
theorem toPublicKey_apply_apply (h : key.isSound = true) (hprimes : key.HasPrimes) {n : Nat}
    (hn : n < key.modulus) : key.toPublicKey.apply (key.apply n) = n := by
  calc key.toPublicKey.apply (key.apply n)
      = (n ^ key.privateExponent % key.modulus) ^ key.exponent % key.modulus := by
        rw [apply, PublicKey.apply, powMod_eq, powMod_eq]
    _ = n ^ (key.exponent * key.privateExponent) % key.modulus := by
        rw [← Nat.pow_mod, ← Nat.pow_mul, Nat.mul_comm]
    _ = n := by rw [pow_modEq h hprimes n, Nat.mod_eq_of_lt hn]

/-- What was encrypted with the public part comes back through the private one. -/
theorem apply_toPublicKey_apply (h : key.isSound = true) (hprimes : key.HasPrimes) {n : Nat}
    (hn : n < key.modulus) : key.apply (key.toPublicKey.apply n) = n := by
  calc key.apply (key.toPublicKey.apply n)
      = (n ^ key.exponent % key.modulus) ^ key.privateExponent % key.modulus := by
        rw [apply, PublicKey.apply, powMod_eq, powMod_eq]
    _ = n ^ (key.exponent * key.privateExponent) % key.modulus := by
        rw [← Nat.pow_mod, ← Nat.pow_mul]
    _ = n := by rw [pow_modEq h hprimes n, Nat.mod_eq_of_lt hn]

end PrivateKey

end CredentialIssuer.Rsa
