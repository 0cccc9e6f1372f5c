import CredentialIssuer.Crypto.Aes
import CredentialIssuer.Crypto.Gcm

/-! AES in Galois/counter mode for keys of one length. The tag stands behind the ciphertext. -/
namespace CredentialIssuer.AesGcm

/-- Why the cipher gives nothing. -/
inductive Fault where
  | keyLength
  /-- No answer: whoever brings a nonce of another length is stopped. -/
  | nonceLength
  | refused
  deriving DecidableEq, Repr

/-- The block cipher under a key, for a nonce to count from. -/
def blockCipher (keyLength : Nat) (key nonce : Bytes) : Except Fault (Bytes → Bytes) :=
  if key.length ≠ keyLength then .error .keyLength
  else if nonce.length ≠ Gcm.nonceLength then .error .nonceLength
  else
    let keys := Aes.roundKeys key
    .ok (Aes.encryptBlock keys)

/-- Ciphertext and tag, the last 16 bytes. -/
def split (sealed : Bytes) : Bytes × Bytes := sealed.splitAt (sealed.length - Gcm.tagLength)

/-- What is sealed with a block cipher can be opened, if it is long enough to have a tag. -/
def opened (cipher : Bytes → Bytes) (nonce extra sealed : Bytes) : Except Fault Bytes :=
  if sealed.length < Gcm.tagLength then .error .refused
  else
    match Gcm.decrypt? cipher nonce extra (split sealed).1 (split sealed).2 with
    | some message => .ok message
    | none => .error .refused

def encrypt (keyLength : Nat) (key nonce extra message : Bytes) : Except Fault Bytes := do
  let cipher ← blockCipher keyLength key nonce
  let (ciphertext, tag) := Gcm.encrypt cipher nonce extra message
  return ciphertext ++ tag

def decrypt (keyLength : Nat) (key nonce extra sealed : Bytes) : Except Fault Bytes := do
  let cipher ← blockCipher keyLength key nonce
  opened cipher nonce extra sealed

variable {keyLength : Nat} {key nonce extra sealed : Bytes}

/-- A key and a nonce of the right lengths are no fault. -/
theorem blockCipher_eq_ok (hkey : key.length = keyLength)
    (hnonce : nonce.length = Gcm.nonceLength) :
    blockCipher keyLength key nonce = .ok (Aes.encryptBlock (Aes.roundKeys key)) := by
  rw [blockCipher, if_neg (not_not_intro hkey), if_neg (not_not_intro hnonce)]

theorem eq_refused_of_opened {cipher : Bytes → Bytes} {fault : Fault}
    (h : opened cipher nonce extra sealed = .error fault) : fault = .refused := by
  unfold opened at h
  split at h
  · exact (Except.error.inj h).symm
  · split at h
    · cases h
    · exact (Except.error.inj h).symm

/-- With a key and a nonce of the right lengths, all that can go wrong is the tag. -/
theorem eq_refused_of_decrypt (hkey : key.length = keyLength)
    (hnonce : nonce.length = Gcm.nonceLength) {fault : Fault}
    (h : decrypt keyLength key nonce extra sealed = .error fault) : fault = .refused := by
  simp only [decrypt, blockCipher_eq_ok hkey hnonce, bind, Except.bind] at h
  exact eq_refused_of_opened h

end CredentialIssuer.AesGcm
