import CredentialIssuer.Proofs.Credential.Signer
import CredentialIssuer.Proofs.Crypto.Oaep
import CredentialIssuer.Proofs.RequestObject.Decryption
import CredentialIssuer.Proofs.RequestObject.Envelope
import CredentialIssuer.RequestObject.Encryption

/-! Whoever holds the key gets back each text that was encrypted for it. Only a key that is too
short for the content key is of no use. -/
namespace CredentialIssuer.RequestObject

/-- What is drawn has the lengths that it is drawn with. -/
structure Entropy.Fits (entropy : Entropy) (enc : ContentEncryption) : Prop where
  contentKey : entropy.contentKey.length = enc.keyLength
  iv : entropy.iv.length = Gcm.nonceLength
  seed : entropy.seed.length = Oaep.hashLength

/-- An envelope around a text for the holder of a key. -/
structure Envelope.Carries (key : Rsa.PrivateKey) (enc : ContentEncryption) (entropy : Entropy)
    (text : String) (e : Envelope) : Prop where
  header : e.header = ⟨"RSA-OAEP-256", enc.name, some "JWE", some "JWT", none⟩
  iv : e.iv = entropy.iv
  iv_length : e.iv.length = 12
  tag_length : e.tag.length = 16
  ciphertext_length : e.ciphertext.length = (Utf8.encode text).length
  contents : e.decrypt key = .ok (Utf8.encode text)

namespace EnvelopeHeader

private theorem readBytes?_standard (enc : ContentEncryption) :
    (Json.readBytes? (Utf8.encode (standard enc).toJson.print)).bind ofJson? =
      some (standard enc) := by
  have hexact : (standard enc).toJson.isExact = true := by cases enc <;> rfl
  rw [Json.readBytes?_encode_print hexact]
  cases enc <;> rfl

def encoded (enc : ContentEncryption) : String :=
  Base64Url.encode (Utf8.encode (standard enc).toJson.print)

end EnvelopeHeader

/-- Ciphertext and tag are what the contents are sealed to, along with the header as it is sent. -/
structure Entropy.Seals (entropy : Entropy) (enc : ContentEncryption)
    (contents ciphertext tag : Bytes) : Prop where
  encrypts : enc.encrypt entropy.contentKey entropy.iv (Utf8.encode (EnvelopeHeader.encoded enc))
    contents = .ok (ciphertext ++ tag)
  tag_length : tag.length = Gcm.tagLength

def Envelope.around (enc : ContentEncryption) (entropy : Entropy)
    (wrappedKey ciphertext tag : Bytes) : Envelope :=
  ⟨.standard enc, EnvelopeHeader.encoded enc, wrappedKey, entropy.iv, ciphertext, tag⟩

section Encryption

variable {key : Rsa.PublicKey} {enc : ContentEncryption} {entropy : Entropy} {text : String}
  {ciphertext tag : Bytes}

private theorem Entropy.Fits.exists_seals (h : entropy.Fits enc) (contents : Bytes) :
    ∃ ciphertext tag, entropy.Seals enc contents ciphertext tag ∧
      ciphertext.length = contents.length := by
  obtain ⟨ciphertext, tag, hencrypts, hciphertext, htag⟩ := AesGcm.exists_encrypt
    enc.keyLength_pos enc.four_dvd_keyLength h.contentKey h.iv contents
  exact ⟨ciphertext, tag, ⟨hencrypts, htag⟩, hciphertext⟩

private theorem encrypt_eq (h : entropy.Seals enc (Utf8.encode text) ciphertext tag) :
    encrypt key enc entropy text =
      match Oaep.encrypt? key entropy.seed entropy.contentKey with
      | some wrappedKey => .ok (Envelope.around enc entropy wrappedKey ciphertext tag).compact
      | none => .error (.encryption "message too long") := by
  obtain ⟨hencrypts, htag⟩ := h
  rw [EnvelopeHeader.encoded] at hencrypts
  simp only [encrypt, hencrypts, AesGcm.split_append htag]
  rfl

private theorem encrypt_of_short (hfits : entropy.Fits enc)
    (hshort : key.size < enc.keyLength + 66) :
    encrypt key enc entropy text = .error (.encryption "message too long") := by
  obtain ⟨ciphertext, tag, hseals, -⟩ := hfits.exists_seals (Utf8.encode text)
  have hnone : Oaep.encrypt? key entropy.seed entropy.contentKey = none :=
    Oaep.encrypt?_eq_none_iff.mpr (hfits.contentKey.symm ▸ hshort)
  rw [encrypt_eq hseals, hnone]

end Encryption

section Holder

variable {key : Rsa.PrivateKey} {enc : ContentEncryption} {entropy : Entropy} {text : String}

private theorem Envelope.parse_around (enc : ContentEncryption) (entropy : Entropy)
    (wrappedKey ciphertext tag : Bytes) :
    Envelope.parse (Envelope.around enc entropy wrappedKey ciphertext tag).compact =
      .ok (Envelope.around enc entropy wrappedKey ciphertext tag) :=
  Envelope.parse_compact rfl (EnvelopeHeader.readBytes?_standard enc)

private theorem Envelope.decrypt_around {wrappedKey contents ciphertext tag : Bytes}
    (hfits : entropy.Fits enc) (hwrapped : Oaep.decrypt? key wrappedKey = some entropy.contentKey)
    (hseals : entropy.Seals enc contents ciphertext tag) :
    (Envelope.around enc entropy wrappedKey ciphertext tag).decrypt key = .ok contents := by
  have hkey : (Envelope.around enc entropy wrappedKey ciphertext tag).HasKey key enc
      entropy.contentKey := ⟨rfl, hwrapped, hfits.contentKey⟩
  have hopens : (Envelope.around enc entropy wrappedKey ciphertext tag).Opens key contents :=
    Envelope.opens_iff_sealed.mpr ⟨enc, entropy.contentKey, hkey, hseals.encrypts⟩
  exact Envelope.decrypt_eq_ok_iff.mpr ⟨rfl, hseals.tag_length, hfits.iv, hopens⟩

/-- A text that is a signed token comes back with its header. -/
private theorem decrypt_of_contents {e : Envelope} {header payload signature : List Char}
    {claimed : SignatureHeader} (hparse : Envelope.parse e.compact = .ok e)
    (hcontents : e.decrypt key = .ok (Utf8.encode text))
    (hsegments : Text.segments '.' text.toList = [header, payload, signature])
    (hheader : SignatureHeader.ofSegment? header = some claimed) :
    decrypt (rsaKeyManagement key) e.compact = .ok ⟨text, claimed⟩ := by
  have htoken : SignedRequest.ofToken? text = some ⟨text, claimed⟩ := by
    simp [SignedRequest.ofToken?, hsegments, hheader]
  rw [decrypt_of_parse hparse]
  simp only [signedIn, rsaKeyManagement, hcontents, Utf8.decode_encode, Option.bind_some, htoken]

private theorem exists_carries (hunwraps : Oaep.Unwraps key) (hfits : entropy.Fits enc)
    (text : String) (hroom : enc.keyLength + 66 ≤ key.size) :
    ∃ e : Envelope, encrypt key.toPublicKey enc entropy text = .ok e.compact ∧
      Envelope.parse e.compact = .ok e ∧ e.Carries key enc entropy text := by
  obtain ⟨ciphertext, tag, hseals, hciphertext⟩ := hfits.exists_seals (Utf8.encode text)
  have hwraps : Oaep.encrypt? key.toPublicKey entropy.seed entropy.contentKey ≠ none := by
    rw [Ne, Oaep.encrypt?_eq_none_iff, hfits.contentKey]
    exact Nat.not_lt.mpr hroom
  obtain ⟨wrappedKey, hwrapped⟩ := Option.ne_none_iff_exists'.mp hwraps
  have hunwrapped := hunwraps entropy.seed entropy.contentKey wrappedKey hfits.seed hwrapped
  refine ⟨Envelope.around enc entropy wrappedKey ciphertext tag, ?_,
    Envelope.parse_around enc entropy wrappedKey ciphertext tag, ?_⟩
  · rw [encrypt_eq hseals, hwrapped]
  · exact ⟨rfl, rfl, hfits.iv, hseals.tag_length, hciphertext,
      Envelope.decrypt_around hfits hunwrapped hseals⟩

/-- Whoever holds the key of a recipient reads every text that was encrypted for it, from an
envelope of the standard header, and takes it as a token if it is one. There has to be room for the
content key in the modulus, besides two hashes and two bytes; a shorter modulus takes no text at
all. -/
theorem holder_reads_encrypted (hunwraps : Oaep.Unwraps key) (hfits : entropy.Fits enc)
    (text : String) :
    (enc.keyLength + 66 ≤ key.size →
      ∃ e : Envelope, encrypt key.toPublicKey enc entropy text = .ok e.compact ∧
        Envelope.parse e.compact = .ok e ∧ e.Carries key enc entropy text ∧
        ∀ header payload signature claimed,
          Text.segments '.' text.toList = [header, payload, signature] →
          SignatureHeader.ofSegment? header = some claimed →
          decrypt (rsaKeyManagement key) e.compact = .ok ⟨text, claimed⟩) ∧
      (key.size < enc.keyLength + 66 →
        encrypt key.toPublicKey enc entropy text = .error (.encryption "message too long")) := by
  refine ⟨fun hroom => ?_, encrypt_of_short hfits⟩
  obtain ⟨e, hencrypt, hparse, hcarries⟩ := exists_carries hunwraps hfits text hroom
  refine ⟨e, hencrypt, hparse, hcarries, ?_⟩
  intro header payload signature claimed hsegments hheader
  exact decrypt_of_contents hparse hcarries.contents hsegments hheader

end Holder

/-- Drawn for the longer of the two keys. -/
def sampleEntropy : Entropy where
  contentKey := List.replicate 32 7
  iv := List.replicate 12 255
  seed := List.replicate 32 0

def emptyToken : String := "eyJhbGciOiJFUzI1NiJ9.e30.c2ln"

private theorem sampleEntropy_fits : sampleEntropy.Fits .a256Gcm := ⟨rfl, rfl, rfl⟩

private theorem emptyToken_header :
    SignatureHeader.ofSegment? "eyJhbGciOiJFUzI1NiJ9".toList = some ⟨"ES256", none, none⟩ := by
  decide +kernel

/-- A token without claims, encrypted for the sample key. -/
theorem emptyToken_read_back :
    Oaep.Unwraps CredentialSigner.sampleKey ∧ sampleEntropy.Fits .a256Gcm ∧
      ∃ e : Envelope,
        encrypt CredentialSigner.sampleKey.toPublicKey .a256Gcm sampleEntropy emptyToken =
          .ok e.compact ∧
        decrypt (rsaKeyManagement CredentialSigner.sampleKey) e.compact =
          .ok ⟨emptyToken, ⟨"ES256", none, none⟩⟩ := by
  have hunwraps := Oaep.unwraps_of_primes CredentialSigner.sampleKey_isSound
    CredentialSigner.sampleKey_hasPrimes
  have hsegments : Text.segments '.' emptyToken.toList =
      ["eyJhbGciOiJFUzI1NiJ9".toList, "e30".toList, "c2ln".toList] := by decide +kernel
  obtain ⟨e, hencrypt, -, -, htoken⟩ :=
    (holder_reads_encrypted hunwraps sampleEntropy_fits emptyToken).1 (by decide +kernel)
  exact ⟨hunwraps, sampleEntropy_fits, e, hencrypt, htoken _ _ _ _ hsegments emptyToken_header⟩

/-- A key of 648 bits, sound like any other. -/
def shortKey : Rsa.PrivateKey where
  modulus := mersenne 521 * mersenne 127
  exponent := 13
  privateExponent := (9 * ((mersenne 521 - 1) * (mersenne 127 - 1)) + 1) / 13
  primes := (mersenne 521, mersenne 127)

private theorem shortKey_hasPrimes : shortKey.HasPrimes := by
  have hsecond : (mersenne 127).Prime := lucas_lehmer_sufficiency 127 (by norm_num) (by norm_num)
  exact ⟨CredentialSigner.sampleKey_hasPrimes.1, hsecond, by decide +kernel⟩

/-- Nothing is wrong with it but its length. -/
theorem shortKey_too_short :
    shortKey.isSound = true ∧ Oaep.Unwraps shortKey ∧ sampleEntropy.Fits .a256Gcm ∧
      encrypt shortKey.toPublicKey .a256Gcm sampleEntropy "a.b.c" =
        .error (.encryption "message too long") := by
  have hsound : shortKey.isSound = true := by decide +kernel
  exact ⟨hsound, Oaep.unwraps_of_primes hsound shortKey_hasPrimes, sampleEntropy_fits,
    encrypt_of_short sampleEntropy_fits (by decide +kernel)⟩

end CredentialIssuer.RequestObject
