import CredentialIssuer.Proofs.Crypto.AesGcm
import CredentialIssuer.RequestObject.Decryption

/-! An envelope is opened if it meets a fixed list of conditions, and told the first that it does
not meet. Nothing about it stops whoever opens it. -/
namespace CredentialIssuer.RequestObject

namespace ContentEncryption

private theorem ofName_name (enc : ContentEncryption) : ofName enc.name = .ok enc := by
  cases enc <;> rfl

/-- A cipher is known by its name alone. -/
theorem ofName_eq_ok_iff {text : String} {enc : ContentEncryption} :
    ofName text = .ok enc ↔ text = enc.name := by
  constructor
  · intro h
    unfold ofName at h
    split at h
    · rename_i htext
      obtain rfl := Except.ok.inj h
      exact htext
    · split at h
      · rename_i htext
        obtain rfl := Except.ok.inj h
        exact htext
      · cases h
  · rintro rfl
    exact ofName_name enc

private theorem ofName_of_ne {text : String} (h : ∀ enc : ContentEncryption, text ≠ enc.name) :
    ofName text = .error (.unsupportedAlgorithm text) := by
  rw [ofName, if_neg (h .a128Gcm), if_neg (h .a256Gcm)]

theorem four_dvd_keyLength (enc : ContentEncryption) : 4 ∣ enc.keyLength := by
  cases enc <;> decide

theorem keyLength_pos (enc : ContentEncryption) : 0 < enc.keyLength := by
  cases enc <;> decide

end ContentEncryption

namespace Envelope

/-- The envelope names a cipher, and what it has wrapped is a key for that cipher. -/
structure HasKey (key : Rsa.PrivateKey) (e : Envelope) (enc : ContentEncryption) (bytes : Bytes) :
    Prop where
  named : e.header.enc = enc.name
  unwraps : Oaep.decrypt? key e.wrappedKey = some bytes
  length : bytes.length = enc.keyLength

/-- The contents that ciphertext and tag open to under the wrapped key, with the header as it was
sent. -/
def Opens (key : Rsa.PrivateKey) (e : Envelope) (contents : Bytes) : Prop :=
  ∃ enc bytes, HasKey key e enc bytes ∧
    AesGcm.decrypt enc.keyLength bytes e.iv (Utf8.encode e.encodedHeader) (e.ciphertext ++ e.tag) =
      .ok contents

def keyLengthOf (name : String) : Nat := if name = "A128GCM" then 16 else 32

/-- What an envelope is asked for, in order, each with what is told where it is not so. -/
def conditions (key : Rsa.PrivateKey) (e : Envelope) : List (Prop × EnvelopeError) :=
  [(e.header.alg = "RSA-OAEP-256", .unsupportedAlgorithm e.header.alg),
    (e.header.enc = "A128GCM" ∨ e.header.enc = "A256GCM", .unsupportedAlgorithm e.header.enc),
    (∃ bytes, Oaep.decrypt? key e.wrappedKey = some bytes, .keyUnwrap "decryption error"),
    (∃ enc bytes, HasKey key e enc bytes, .keyUnwrap ("Content key must be "
      ++ toString (keyLengthOf e.header.enc) ++ " bytes for " ++ e.header.enc)),
    (e.tag.length = 16, .malformed "Invalid authentication tag length"),
    (e.iv.length = 12, .malformed "Invalid initialization vector length"),
    (∃ contents, Opens key e contents, .contentDecryption)]

variable {key : Rsa.PrivateKey} {e : Envelope} {enc : ContentEncryption} {bytes : Bytes}

/-- The wrapped key and its cipher are settled by the envelope. -/
theorem HasKey.unique {enc' : ContentEncryption} {bytes' : Bytes} (h : HasKey key e enc bytes)
    (h' : HasKey key e enc' bytes') : enc = enc' ∧ bytes = bytes' := by
  refine ⟨?_, Option.some.inj (h.unwraps.symm.trans h'.unwraps)⟩
  have hname := ContentEncryption.ofName_eq_ok_iff.mpr (h.named.symm.trans h'.named)
  exact Except.ok.inj ((ContentEncryption.ofName_name enc).symm.trans hname)

/-- An envelope has one content at the most. -/
theorem Opens.unique {contents contents' : Bytes} (h : Opens key e contents)
    (h' : Opens key e contents') : contents = contents' := by
  obtain ⟨enc, bytes, hkey, h⟩ := h
  obtain ⟨enc', bytes', hkey', h'⟩ := h'
  obtain ⟨rfl, rfl⟩ := hkey.unique hkey'
  exact Except.ok.inj (h.symm.trans h')

private theorem named_iff : e.header.enc = "A128GCM" ∨ e.header.enc = "A256GCM" ↔
    ∃ enc : ContentEncryption, e.header.enc = enc.name := by
  constructor
  · rintro (h | h)
    · exact ⟨.a128Gcm, h⟩
    · exact ⟨.a256Gcm, h⟩
  · rintro ⟨enc, h⟩
    cases enc with
    | a128Gcm => exact .inl h
    | a256Gcm => exact .inr h

/-- The name of a cipher settles the length of its keys. -/
theorem keyLengthOf_name (enc : ContentEncryption) : keyLengthOf enc.name = enc.keyLength := by
  cases enc <;> rfl

section Steps

variable {error : EnvelopeError}

/-- Whatever the cipher finds fault with is told the same way. -/
theorem decrypt_eq (key : Rsa.PrivateKey) (e : Envelope) :
    e.decrypt key =
      match e.attempt key with
      | .ok contents => .ok contents
      | .error (.failed error) => .error error
      | .error (.fault _) => .error .contentDecryption := by
  unfold decrypt
  split
  · rename_i h
    rw [h]
  · rename_i h
    rw [h]
  · rename_i h
    exact nomatch eq_refused_of_attempt h
  · rename_i h
    rw [h]
  · rename_i h
    rw [h]

private theorem decrypt_of_contentKey (h : e.contentKey key = .error error) :
    e.decrypt key = .error error := by
  rw [decrypt_eq, attempt, h]

private theorem contentKey_of_alg_ne (h : e.header.alg ≠ keyManagementAlgorithm) :
    e.contentKey key = .error (.unsupportedAlgorithm e.header.alg) := by
  simp only [contentKey, if_pos h]
  rfl

private theorem contentKey_of_unnamed (halg : e.header.alg = keyManagementAlgorithm)
    (h : ∀ enc : ContentEncryption, e.header.enc ≠ enc.name) :
    e.contentKey key = .error (.unsupportedAlgorithm e.header.enc) := by
  simp only [contentKey, if_neg (not_not_intro halg), ContentEncryption.ofName_of_ne h]
  rfl

private theorem contentKey_eq (halg : e.header.alg = keyManagementAlgorithm)
    (henc : e.header.enc = enc.name) :
    e.contentKey key = (unwrapped key enc e).bind fun k =>
      if e.tag.length ≠ Gcm.tagLength then .error (.malformed "Invalid authentication tag length")
      else .ok k := by
  simp only [contentKey, if_neg (not_not_intro halg), ContentEncryption.ofName_eq_ok_iff.mpr henc]
  rfl

private theorem unwrapped_of_none (h : Oaep.decrypt? key e.wrappedKey = none) :
    unwrapped key enc e = .error (.keyUnwrap "decryption error") := by
  rw [unwrapped, h]

private theorem unwrapped_of_misfit (h : Oaep.decrypt? key e.wrappedKey = some bytes)
    (hlength : bytes.length ≠ enc.keyLength) :
    unwrapped key enc e = .error (.keyUnwrap ("Content key must be " ++ toString enc.keyLength
      ++ " bytes for " ++ enc.name)) := by
  simp only [unwrapped, h, dif_neg hlength]

private theorem unwrapped_of_hasKey (h : HasKey key e enc bytes) :
    unwrapped key enc e = .ok ⟨enc, bytes, h.length⟩ := by
  simp only [unwrapped, h.unwraps, dif_pos h.length]

private theorem attempt_eq (halg : e.header.alg = keyManagementAlgorithm)
    (hkey : HasKey key e enc bytes) (htag : e.tag.length = Gcm.tagLength) :
    e.attempt key =
      enc.decrypt bytes e.iv (Utf8.encode e.encodedHeader) (e.ciphertext ++ e.tag) := by
  simp only [attempt, contentKey_eq halg hkey.named, unwrapped_of_hasKey hkey, Except.bind,
    if_neg (not_not_intro htag)]

end Steps

/-- What decryption comes to: the contents, or the first condition that is not met. -/
theorem decrypt_tells (key : Rsa.PrivateKey) (e : Envelope) :
    Tells (e.decrypt key) (conditions key e) (Opens key e) := by
  -- One condition at a time: what is told where it fails, then the others with it at hand.
  refine .cons (fun halg => decrypt_of_contentKey (contentKey_of_alg_ne halg)) fun halg => ?_
  refine .cons (fun henc => decrypt_of_contentKey ?_) fun henc => ?_
  · exact contentKey_of_unnamed halg (not_exists.mp (mt named_iff.mpr henc))
  obtain ⟨enc, henc⟩ := named_iff.mp henc
  refine .cons (fun hunwrap => decrypt_of_contentKey ?_) fun ⟨bytes, hunwrap⟩ => ?_
  · have hnone := Option.eq_none_iff_forall_ne_some.mpr (not_exists.mp hunwrap)
    rw [contentKey_eq halg henc, unwrapped_of_none hnone]
    rfl
  refine .cons (fun hmisfit => decrypt_of_contentKey ?_) fun ⟨enc', bytes', hkey⟩ => ?_
  · have hlength : bytes.length ≠ enc.keyLength := fun h => hmisfit ⟨enc, bytes, henc, hunwrap, h⟩
    rw [contentKey_eq halg henc, unwrapped_of_misfit hunwrap hlength, henc, keyLengthOf_name]
    rfl
  refine .cons (fun htag => decrypt_of_contentKey ?_) fun htag => ?_
  · rw [contentKey_eq halg hkey.named, unwrapped_of_hasKey hkey]
    exact if_pos htag
  have hattempt := attempt_eq halg hkey htag
  refine .cons (fun hiv => ?_) fun hiv => ?_
  · have hlength : e.iv.length ≠ Gcm.nonceLength := hiv
    rw [decrypt_eq, hattempt, ContentEncryption.decrypt, if_pos hlength]
  -- All lengths are right here, so the answer is the cipher's.
  have hcipher := hattempt.trans (if_neg (not_not_intro hiv))
  cases hanswer : AesGcm.decrypt enc'.keyLength bytes' e.iv (Utf8.encode e.encodedHeader)
      (e.ciphertext ++ e.tag) with
  | ok contents =>
    have hopens : Opens key e contents := ⟨enc', bytes', hkey, hanswer⟩
    refine .cons (fun hnone => absurd ⟨contents, hopens⟩ hnone) fun _ => .nil ?_ hopens
    rw [decrypt_eq, hcipher, hanswer]
    rfl
  | error fault =>
    refine .cons (fun _ => ?_) ?_
    · rw [decrypt_eq, hcipher, hanswer]
      rfl
    · rintro ⟨contents, enc'', bytes'', hkey'', hopened⟩
      obtain ⟨rfl, rfl⟩ := hkey.unique hkey''
      cases hanswer.symm.trans hopened

/-- All that is asked of an envelope, and its contents. -/
theorem decrypt_eq_ok_iff {contents : Bytes} :
    e.decrypt key = .ok contents ↔
      e.header.alg = "RSA-OAEP-256" ∧ e.tag.length = 16 ∧ e.iv.length = 12 ∧
        Opens key e contents := by
  have htells := decrypt_tells key e
  constructor
  · intro h
    obtain ⟨hopens, hall⟩ := htells.ok contents h
    simp only [conditions, List.forall_mem_cons] at hall
    obtain ⟨halg, -, -, -, htag, hiv, -⟩ := hall
    exact ⟨halg, htag, hiv, hopens⟩
  · rintro ⟨halg, htag, hiv, hopens⟩
    obtain ⟨enc, bytes, hkey, -⟩ := id hopens
    have hall : ∀ c ∈ conditions key e, c.1 := by
      simp only [conditions, List.forall_mem_cons]
      exact ⟨halg, named_iff.mpr ⟨enc, hkey.named⟩, ⟨bytes, hkey.unwraps⟩, ⟨enc, bytes, hkey⟩, htag,
        hiv, ⟨contents, hopens⟩, by simp⟩
    obtain ⟨found, hfound⟩ := htells.exists_ok hall
    rw [hfound, hopens.unique (htells.ok found hfound).1]

/-- What an envelope opens to is what was sealed to its ciphertext and tag. -/
theorem opens_iff_sealed {contents : Bytes} :
    Opens key e contents ↔ ∃ enc bytes, HasKey key e enc bytes ∧
      AesGcm.encrypt enc.keyLength bytes e.iv (Utf8.encode e.encodedHeader) contents =
        .ok (e.ciphertext ++ e.tag) := by
  refine exists_congr fun enc => exists_congr fun bytes => and_congr_right fun _ => ?_
  exact AesGcm.decrypt_eq_ok_iff enc.keyLength_pos enc.four_dvd_keyLength

/-- The contents of an envelope that meets all conditions are those that were sealed to what it
holds, and any other is told the first condition that it does not meet. The cipher refuses, but it
never finds its key unfit, and no vector of another length ever gets to it. -/
theorem decrypt_tells_first_failure (key : Rsa.PrivateKey) (e : Envelope) :
    (∀ contents, e.decrypt key = .ok contents ↔
      e.header.alg = "RSA-OAEP-256" ∧ e.tag.length = 16 ∧ e.iv.length = 12 ∧
        Opens key e contents) ∧
      (∀ contents, Opens key e contents ↔ ∃ enc bytes, HasKey key e enc bytes ∧
        AesGcm.encrypt enc.keyLength bytes e.iv (Utf8.encode e.encodedHeader) contents =
          .ok (e.ciphertext ++ e.tag)) ∧
      (∀ error, e.decrypt key = .error error ↔ FirstFails (conditions key e) error) ∧
      ∀ fault, e.attempt key = .error (.fault fault) → fault = .refused :=
  ⟨fun _ => decrypt_eq_ok_iff, fun _ => opens_iff_sealed, (decrypt_tells key e).error_iff,
    fun _ => eq_refused_of_attempt⟩

end Envelope

end CredentialIssuer.RequestObject
