import CredentialIssuer.Crypto.AesGcm
import CredentialIssuer.Proofs.Crypto.Aes
import CredentialIssuer.Proofs.Crypto.Gcm
import CredentialIssuer.Proofs.Result

/-! With a key and a nonce of the lengths it takes, the cipher seals every message, and it opens
what it sealed and nothing else. -/
namespace CredentialIssuer.AesGcm

/-- Ciphertext and tag part where they were joined. -/
theorem split_append {ciphertext tag : Bytes} (h : tag.length = Gcm.tagLength) :
    split (ciphertext ++ tag) = (ciphertext, tag) := by
  have hlength : (ciphertext ++ tag).length - Gcm.tagLength = ciphertext.length := by
    rw [List.length_append, h, Nat.add_sub_cancel]
  rw [split, hlength, List.splitAt_eq, List.take_left, List.drop_left]

private theorem append_split (sealed : Bytes) : (split sealed).1 ++ (split sealed).2 = sealed := by
  rw [split, List.splitAt_eq, List.take_append_drop]

/-- A sealed text is opened if it is long enough for a tag and the tag fits. -/
theorem opened_eq_ok_iff {cipher : Bytes → Bytes} {nonce extra sealed message : Bytes} :
    opened cipher nonce extra sealed = .ok message ↔
      Gcm.tagLength ≤ sealed.length ∧
        Gcm.decrypt? cipher nonce extra (split sealed).1 (split sealed).2 = some message := by
  by_cases hshort : sealed.length < Gcm.tagLength
  · simp [opened, hshort, Nat.not_le.mpr hshort]
  · rw [opened, if_neg hshort]
    cases hmessage : Gcm.decrypt? cipher nonce extra (split sealed).1 (split sealed).2 with
    | none => simp
    | some found => simp [Nat.not_lt.mp hshort]

/-- What opens to a message is what the message is sealed to. -/
theorem opened_eq_ok_iff_sealed {cipher : Bytes → Bytes}
    (hcipher : ∀ block, (cipher block).length = 16) {nonce extra sealed message : Bytes} :
    opened cipher nonce extra sealed = .ok message ↔
      (Gcm.encrypt cipher nonce extra message).1 ++ (Gcm.encrypt cipher nonce extra message).2 =
        sealed := by
  obtain ⟨-, htag⟩ := Gcm.lengths_encrypt hcipher nonce extra message
  rw [opened_eq_ok_iff, Gcm.decrypt?_eq_some_iff hcipher, Prod.ext_iff]
  -- From here on only the length of the tag counts, not how it comes about.
  generalize Gcm.encrypt cipher nonce extra message = parts at htag ⊢
  constructor
  · rintro ⟨-, hciphertext, htag⟩
    rw [hciphertext, htag, append_split]
  · intro h
    rw [← h, split_append htag, List.length_append, htag]
    exact ⟨Nat.le_add_left Gcm.tagLength _, rfl, rfl⟩

section Key

variable {keyLength : Nat} {key nonce extra : Bytes}

private theorem blockCipher_eq_ok_iff {cipher : Bytes → Bytes} :
    blockCipher keyLength key nonce = .ok cipher ↔
      key.length = keyLength ∧ nonce.length = Gcm.nonceLength ∧
        cipher = Aes.encryptBlock (Aes.roundKeys key) := by
  constructor
  · intro h
    unfold blockCipher at h
    split at h
    · cases h
    · rename_i hkey
      split at h
      · cases h
      · rename_i hnonce
        exact ⟨Decidable.not_not.mp hkey, Decidable.not_not.mp hnonce, (Except.ok.inj h).symm⟩
  · rintro ⟨hkey, hnonce, rfl⟩
    exact blockCipher_eq_ok hkey hnonce

private theorem length_block (hpos : 0 < keyLength) (hdvd : 4 ∣ keyLength)
    (hkey : key.length = keyLength) (block : Bytes) :
    (Aes.encryptBlock (Aes.roundKeys key) block).length = 16 := by
  subst hkey
  exact Aes.length_encryptBlock (List.length_pos_iff.mp hpos) hdvd block

/-- Keys of whole words, which those of both lengths in use are. -/
theorem decrypt_eq_ok_iff (hpos : 0 < keyLength) (hdvd : 4 ∣ keyLength) {sealed message : Bytes} :
    decrypt keyLength key nonce extra sealed = .ok message ↔
      encrypt keyLength key nonce extra message = .ok sealed := by
  rw [decrypt, encrypt, bind_eq_ok_iff, bind_eq_ok_iff]
  refine exists_congr fun cipher => and_congr_right fun hcipher => ?_
  obtain ⟨hkey, -, rfl⟩ := blockCipher_eq_ok_iff.mp hcipher
  have hblock := length_block hpos hdvd hkey
  rw [opened_eq_ok_iff_sealed hblock]
  simp [pure, Except.pure]

/-- Every message is sealed, at the cost of a tag. -/
theorem exists_encrypt (hpos : 0 < keyLength) (hdvd : 4 ∣ keyLength) (hkey : key.length = keyLength)
    (hnonce : nonce.length = Gcm.nonceLength) (message : Bytes) :
    ∃ ciphertext tag, encrypt keyLength key nonce extra message = .ok (ciphertext ++ tag) ∧
      ciphertext.length = message.length ∧ tag.length = Gcm.tagLength := by
  have hblock := length_block hpos hdvd hkey
  have hencrypt : encrypt keyLength key nonce extra message =
      .ok ((Gcm.encrypt (Aes.encryptBlock (Aes.roundKeys key)) nonce extra message).1 ++
        (Gcm.encrypt (Aes.encryptBlock (Aes.roundKeys key)) nonce extra message).2) := by
    simp only [encrypt, blockCipher_eq_ok hkey hnonce, bind, Except.bind, pure, Except.pure]
  exact ⟨_, _, hencrypt, Gcm.lengths_encrypt hblock nonce extra message⟩

end Key

end CredentialIssuer.AesGcm
