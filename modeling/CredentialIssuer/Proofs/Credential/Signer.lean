import CredentialIssuer.Credential.Signer
import CredentialIssuer.Proofs.Credential.Basic
import CredentialIssuer.Proofs.Crypto.RsaSignature
import CredentialIssuer.Proofs.Jose.Jwt
import CredentialIssuer.Proofs.Json.Reader
import Mathlib.NumberTheory.LucasLehmer

/-! What a signed credential says, to whoever takes it apart and to the signer itself. -/
namespace CredentialIssuer.CredentialSigner

/-- A key of at least 1024 bits that was read from a document takes its own signatures, unless its
factors are no primes or the same one. -/
theorem acceptsOwn_of_ofPem {pem : String} {kid : Option String} {s : CredentialSigner}
    (h : ofPem pem kid = .ok s) (hprimes : s.key.HasPrimes) (hbits : 2 ^ 1023 ≤ s.key.modulus) :
    RsaSignature.AcceptsOwn s.key := by
  unfold ofPem at h
  split at h
  · rename_i key hkey
    obtain rfl := Except.ok.inj h
    exact RsaSignature.acceptsOwn_of_primes (Rsa.PrivateKey.isSound_of_ofPem? hkey) hprimes hbits
  · cases h

def parameters (s : CredentialSigner) : Json.Members :=
  Json.member? "kid" .string s.kid ++ [("typ", .string "JWT")]

private theorem readBytes?_header (s : CredentialSigner) :
    Json.readBytes? (Utf8.encode s.header.print) = some s.header := by
  refine Json.readBytes?_encode_print ?_
  have hkid : Json.membersExact (Json.member? "kid" .string s.kid) = true :=
    Json.membersExact_member? "kid" (fun _ => rfl) s.kid
  simp [header, Json.isExact, Json.membersExact, hkid]

private theorem read?_header (s : CredentialSigner) :
    Jwt.Header.read? (Utf8.encode s.header.print) = some ⟨algorithm, s.parameters⟩ := by
  rw [Jwt.Header.read?, readBytes?_header]
  obtain ⟨key, kid⟩ := s
  cases kid with
  | none => rfl
  | some kid => rfl

/-- The claims have a text as their subject and none of the other claims with a meaning. -/
theorem hasLegibleClaims_toJson (c : CredentialClaims) : Jwt.hasLegibleClaims c.toJson = true := rfl

/-- A signed credential has three segments. The first says with which algorithm and key it was
signed, the second holds the subject and the credential, and the third is the signature over both.
The signer reads back what it signed, given that the key takes its own signatures. -/
theorem signCredential_reads_back (s : CredentialSigner) (c : CredentialClaims)
    (hown : RsaSignature.AcceptsOwn s.key) :
    ∃ head payload,
      Text.segments '.' (s.signCredential c).toList =
        [(Base64Url.encode head).toList, (Base64Url.encode payload).toList,
          (Base64Url.encode (RsaSignature.sign s.key (Jwt.signedBytes head payload))).toList] ∧
      Json.readBytes? head = some (.object (("typ", .string "JWT") :: ("alg", .string "RS256") ::
        Json.member? "kid" .string s.kid)) ∧
      Json.readBytes? payload = some (.object [("sub", .string c.sub), ("vc", c.vc.toJson)]) ∧
      s.verifyCredential (s.signCredential c) = .ok (⟨.rs256, s.parameters⟩, c) := by
  have hpayload := Json.readBytes?_encode_print c.isExact_toJson
  refine ⟨Utf8.encode s.header.print, Utf8.encode c.toJson.print, ?_, s.readBytes?_header, hpayload,
    ?_⟩
  · rw [signCredential, sign, Jwt.sign_eq_compact]
    exact Jwt.segments_compact _ _ _
  · have hverify : Jwt.verify algorithm (.ok (Jwt.rs256Check s.key.toPublicKey))
        CredentialClaims.ofJson? (s.signCredential c) = .ok (⟨algorithm, s.parameters⟩, c) :=
      Jwt.verify_sign _ s.read?_header rfl (hown _) hpayload c.ofJson?_toJson
        (hasLegibleClaims_toJson c)
    rw [verifyCredential, verify, hverify]
    rfl

/-- A key of 1128 bits. Its factors are known to be primes. -/
def sampleKey : Rsa.PrivateKey where
  modulus := mersenne 521 * mersenne 607
  exponent := 13
  privateExponent := (9 * ((mersenne 521 - 1) * (mersenne 607 - 1)) + 1) / 13
  primes := (mersenne 521, mersenne 607)

theorem sampleKey_isSound : sampleKey.isSound = true := by decide +kernel

theorem sampleKey_hasPrimes : sampleKey.HasPrimes := by
  have hfirst : (mersenne 521).Prime := lucas_lehmer_sufficiency 521 (by norm_num) (by norm_num)
  have hsecond : (mersenne 607).Prime := lucas_lehmer_sufficiency 607 (by norm_num) (by norm_num)
  exact ⟨hfirst, hsecond, by decide +kernel⟩

private theorem sampleKey_acceptsOwn : RsaSignature.AcceptsOwn sampleKey :=
  RsaSignature.acceptsOwn_of_primes sampleKey_isSound sampleKey_hasPrimes (by decide +kernel)

/-- Claims with a name part that is valid since before the year 0, and one that always is. -/
def sampleClaims : CredentialClaims where
  sub := "urn:\"subject\"\n"
  vc := {
    resourceId := "ressource-é"
    subject := {
      nameParts := [⟨"Mary", .givenName, ⟨some ⟨-99, 7, 12, by decide⟩, none⟩⟩,
        ⟨"Watson", .familyName, .openEnded⟩]
      passportNumber := ""
      birthDate := ⟨-99, 7, 12, by decide⟩
      expiryDate := ⟨9999, 12, 31, by decide⟩
      requestId := ⟨List.replicate 16 0, by decide⟩
      correlationId := ⟨List.replicate 16 255, by decide⟩
      dcsResponse := ⟨⟨List.replicate 16 1, by decide⟩, ⟨List.replicate 16 2, by decide⟩, true,
        false, some ["not \\ found", "\x07"]⟩ }
    evidence := ⟨255, 0⟩ }

/-- The sample claims under a key with a name. -/
theorem sampleClaims_read_back :
    RsaSignature.AcceptsOwn sampleKey ∧
      verifyCredential ⟨sampleKey, some "vc-key-1"⟩
          (signCredential ⟨sampleKey, some "vc-key-1"⟩ sampleClaims) =
        .ok (⟨.rs256, [("kid", .string "vc-key-1"), ("typ", .string "JWT")]⟩, sampleClaims) := by
  obtain ⟨_, _, -, -, -, hverify⟩ :=
    signCredential_reads_back ⟨sampleKey, some "vc-key-1"⟩ sampleClaims sampleKey_acceptsOwn
  exact ⟨sampleKey_acceptsOwn, hverify⟩

end CredentialIssuer.CredentialSigner
