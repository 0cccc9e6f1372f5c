import CredentialIssuer.Proofs.Json.Record
import CredentialIssuer.Proofs.RequestObject.Acceptance

/-! Requests that no signed token comes out of are told the same, whatever is wrong with them. -/
namespace CredentialIssuer.RequestObject

namespace SignatureHeader

def names : List String := ["alg", "typ", "kid"]

private theorem nodup_names : names.Nodup := by decide

/-- The algorithm is the text that stands there, known or not. -/
structure Fields (members : Json.Members) (header : SignatureHeader) : Prop where
  alg : members.valuesOf "alg" = [.string header.alg]
  typ : members.Gives "typ" Json.asText? header.typ
  kid : members.Gives "kid" Json.asText? header.kid

private theorem Fields.once {members : Json.Members} {header : SignatureHeader}
    (h : Fields members header) : ∀ name ∈ names, (members.valuesOf name).length ≤ 1 := by
  simp only [names, List.forall_mem_cons]
  exact ⟨by simp [h.alg], h.typ.once, h.kid.once, by simp⟩

private theorem fields_iff {members : Json.Members} {r : Json.Record} {value : Json}
    {header : SignatureHeader} (hr : Json.record? names value = some r)
    (hfield : ∀ name ∈ names, members.valuesOf name = (r.field? name).toList) :
    ofJson? value = some header ↔ Fields members header := by
  rw [names] at hr
  simp only [names, List.forall_mem_cons] at hfield
  obtain ⟨halg, htyp, hkid, -⟩ := hfield
  simp only [ofJson?, hr, Option.bind_eq_bind, Option.bind_some, Option.bind_eq_some_iff,
    Json.Record.required_eq_some_iff halg, Json.Record.lenient_eq_some_iff htyp,
    Json.Record.lenient_eq_some_iff hkid]
  constructor
  · rintro ⟨alg, ⟨text, htext, hread⟩, typ, htyp, kid, hkid, heq⟩
    obtain rfl := Option.some.inj heq
    obtain rfl := Json.asText?_eq_some_iff.mp hread
    exact ⟨htext, htyp, hkid⟩
  · rintro ⟨alg, typ, kid⟩
    exact ⟨_, ⟨_, alg, rfl⟩, _, typ, _, kid, rfl⟩

private theorem ofJson?_eq_some_iff {value : Json} {header : SignatureHeader} :
    ofJson? value = some header ↔
      ∃ members, Json.Spells names value members ∧ Fields members header := by
  constructor
  · intro h
    obtain ⟨r, hr, -⟩ := Option.bind_eq_some_iff.mp h
    obtain ⟨members, hspells, hfield⟩ := Json.exists_spells nodup_names hr
    exact ⟨members, hspells, (fields_iff hr hfield).mp h⟩
  · rintro ⟨members, hspells, hfields⟩
    obtain ⟨r, hr, hfield⟩ := hspells.exists_record? hfields.once
    exact (fields_iff hr hfield).mpr hfields

def IsWritten (bytes : Bytes) (header : SignatureHeader) : Prop :=
  ∃ value members, Json.readBytes? bytes = some value ∧ Json.Spells names value members ∧
    Fields members header

private theorem ofSegment?_eq_some_iff {cs : List Char} {header : SignatureHeader} :
    ofSegment? cs = some header ↔
      ∃ bytes, Base64Url.decode? (String.ofList cs) = some bytes ∧ IsWritten bytes header := by
  simp only [ofSegment?, IsWritten, Option.bind_eq_bind, Option.bind_eq_some_iff,
    ofJson?_eq_some_iff]
  constructor
  · rintro ⟨bytes, hbytes, value, hvalue, members, hmembers⟩
    exact ⟨bytes, hbytes, value, members, hvalue, hmembers⟩
  · rintro ⟨bytes, hbytes, value, members, hvalue, hmembers⟩
    exact ⟨bytes, hbytes, value, hvalue, members, hmembers⟩

end SignatureHeader

def SignedRequest.firstSegment (signed : SignedRequest) : String :=
  String.ofList (signed.token.toList.takeWhile (· ≠ '.'))

/-- A token of two dots, with a header before the first of them. -/
structure SignedRequest.IsToken (signed : SignedRequest) : Prop where
  dots : signed.token.toList.count '.' = 2
  strict : Base64Url.IsStrict signed.firstSegment
  header : ∃ bytes, Base64Url.decode? signed.firstSegment = some bytes ∧
    SignatureHeader.IsWritten bytes signed.header

private theorem ofToken?_iff_isToken {signed : SignedRequest} :
    SignedRequest.ofToken? signed.token = some signed ↔ signed.IsToken := by
  obtain ⟨rest, hsegments, hrest⟩ := Text.segments_spec '.' signed.token.toList
  rw [SignedRequest.ofToken?, hsegments]
  constructor
  · intro h
    split at h
    · rename_i header payload signature heq
      obtain ⟨rfl, rfl⟩ := List.cons.inj heq
      obtain ⟨decoded, hdecoded, hsigned⟩ := Option.map_eq_some_iff.mp h
      have hdecoded' : decoded = signed.header := congrArg SignedRequest.header hsigned
      obtain ⟨bytes, hbytes, hwritten⟩ :=
        SignatureHeader.ofSegment?_eq_some_iff.mp (hdecoded' ▸ hdecoded)
      have hstrict :=
        Base64Url.isStrict_iff.mpr ⟨bytes, Base64Url.decode?_eq_some_iff.mp hbytes⟩
      exact ⟨hrest.symm, hstrict, bytes, hbytes, hwritten⟩
    · cases h
  · rintro ⟨hdots, -, hheader⟩
    obtain ⟨payload, signature, rfl⟩ := List.length_eq_two.mp (hrest.trans hdots)
    rw [Option.map_eq_some_iff]
    exact ⟨signed.header, SignatureHeader.ofSegment?_eq_some_iff.mpr hheader, rfl⟩

/-- The service opens the envelope of a text to the bytes of a token. -/
def Reveals (keys : KeyManagement) (compact : String) (signed : SignedRequest) : Prop :=
  ∃ envelope, Envelope.parse compact = .ok envelope ∧
    keys envelope = .ok (Utf8.encode signed.token) ∧ signed.IsToken

def recorded (keys : KeyManagement) (envelope : Envelope) :
    StateM (List Envelope) (Except ServiceError Bytes) := do
  modify (· ++ [envelope])
  return keys envelope

section Decryption

variable {keys : KeyManagement} {compact : String}

/-- Decryption in terms of the bytes that are sent and those that the service answers with. -/
theorem decrypt_eq_ok_iff_reveals {signed : SignedRequest} :
    decrypt keys compact = .ok signed ↔ Reveals keys compact signed := by
  unfold Reveals
  cases hparse : Envelope.parse compact with
  | error error => simp [decrypt_of_unparsed hparse]
  | ok envelope => simp [decrypt_of_parse hparse, signedIn_eq_ok_iff, ofToken?_iff_isToken]

private theorem failure_of_signedIn {answer : Except ServiceError Bytes} {failure : FatalFailure}
    (h : signedIn answer = .error failure) : failure = .decryptionFailed := by
  unfold signedIn at h
  split at h
  · exact (Except.error.inj h).symm
  · split at h
    · cases h
    · exact (Except.error.inj h).symm

private theorem failure_of_decrypt {failure : FatalFailure}
    (h : decrypt keys compact = .error failure) :
    failure = .decryptionFailed := by
  cases hparse : Envelope.parse compact with
  | error error => exact (Except.error.inj ((decrypt_of_unparsed hparse).symm.trans h)).symm
  | ok envelope => exact failure_of_signedIn ((decrypt_of_parse hparse).symm.trans h)

private theorem decrypt_of_hidden (h : ¬ ∃ signed, Reveals keys compact signed) :
    decrypt keys compact = .error .decryptionFailed := by
  cases hanswer : decrypt keys compact with
  | error failure => rw [failure_of_decrypt hanswer]
  | ok signed => exact absurd ⟨signed, decrypt_eq_ok_iff_reveals.mp hanswer⟩ h

private theorem exists_asked (keys : KeyManagement) (compact : String) (before : List Envelope) :
    ∃ asked, (decryptWith (recorded keys) compact).run before =
        (decrypt keys compact, before ++ asked) ∧
      asked.length ≤ 1 ∧ ∀ envelope ∈ asked, envelope.compact = compact := by
  cases hparse : Envelope.parse compact with
  | error error =>
    refine ⟨[], ?_, by simp, by simp⟩
    rw [decrypt_of_unparsed hparse, decryptWith, hparse, List.append_nil]
    rfl
  | ok envelope =>
    obtain ⟨hcompact, -⟩ := Envelope.parse_eq_ok_iff.mp hparse
    refine ⟨[envelope], ?_, by simp, by simpa using hcompact⟩
    rw [decrypt_of_parse hparse, decryptWith, hparse]
    rfl

end Decryption

/-- A request is opened to the very token in its envelope, with the header that stands there. All
others fail with one failure, so that no two of them can be told apart, under whatever services and
for whatever reason. The service is asked once at the most, and for nothing but the envelope that
was sent. -/
theorem decrypt_fails_alike (keys : KeyManagement) (compact : String) :
    (∀ signed, decrypt keys compact = .ok signed ↔ Reveals keys compact signed) ∧
      (∀ failure, decrypt keys compact = .error failure → failure = .decryptionFailed) ∧
      (∀ otherKeys other, (¬ ∃ signed, Reveals keys compact signed) →
        (¬ ∃ signed, Reveals otherKeys other signed) →
        decrypt keys compact = decrypt otherKeys other) ∧
      ∀ before, ∃ asked, (decryptWith (recorded keys) compact).run before =
          (decrypt keys compact, before ++ asked) ∧
        asked.length ≤ 1 ∧ ∀ envelope ∈ asked, envelope.compact = compact := by
  refine ⟨fun _ => decrypt_eq_ok_iff_reveals, fun _ => failure_of_decrypt, ?_,
    exists_asked keys compact⟩
  intro otherKeys other hhidden hother
  rw [decrypt_of_hidden hhidden, decrypt_of_hidden hother]

end CredentialIssuer.RequestObject
