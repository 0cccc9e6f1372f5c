import CredentialIssuer.Jose.Jwt
import CredentialIssuer.Proofs.Result
import CredentialIssuer.Proofs.Text.Base64Url
import CredentialIssuer.Proofs.Text.Segments

/-! When a token is verified, and what becomes of the tokens that are signed here: they have three
segments, each of them in the alphabet of Base64, and are verified if their signature is right. -/
namespace CredentialIssuer.Jwt

private theorem splitLast?_eq_some_iff {cs a b : List Char} :
    splitLast? cs = some (a, b) ↔ cs = a ++ '.' :: b ∧ '.' ∉ b := by
  unfold splitLast?
  rw [Option.map_eq_some_iff]
  constructor
  · rintro ⟨⟨last, rest⟩, h, he⟩
    obtain ⟨rfl, rfl⟩ := Prod.mk.inj he
    obtain ⟨hjoin, hfree⟩ := Text.splitFirst?_eq_some_iff.mp h
    refine ⟨?_, by simpa using hfree⟩
    rw [← List.reverse_reverse cs, hjoin]
    simp
  · rintro ⟨rfl, hfree⟩
    refine ⟨(b.reverse, a.reverse), Text.splitFirst?_eq_some_iff.mpr ⟨?_, by simpa using hfree⟩, ?_⟩
    · simp
    · simp

/-- Dots in the header are no separators. -/
theorem Segments.of?_eq_some_iff {token : String} {s : Segments} :
    Segments.of? token = some s ↔
      token.toList = s.header ++ '.' :: s.payload ++ '.' :: s.signature ∧
      '.' ∉ s.payload ∧ '.' ∉ s.signature := by
  simp only [Segments.of?, Option.bind_eq_bind, Option.bind_eq_some_iff, Option.some.injEq,
    Prod.exists, splitLast?_eq_some_iff]
  constructor
  · rintro ⟨signed, signature, ⟨hsigned, hsignature⟩, header, payload, ⟨rfl, hpayload⟩, rfl⟩
    exact ⟨hsigned, hpayload, hsignature⟩
  · rintro ⟨hjoin, hpayload, hsignature⟩
    exact ⟨_, _, ⟨hjoin, hsignature⟩, _, _, ⟨rfl, hpayload⟩, rfl⟩

/-- A segment is decoded exactly where it is base64 without padding. -/
theorem decoded_eq_ok_iff {segment : List Char} {bytes : Bytes} :
    decoded segment = .ok bytes ↔ Base64Url.decode? (String.ofList segment) = some bytes := by
  unfold decoded
  split
  · rename_i found h
    simp [h]
  · rename_i h
    simp [h]

private theorem fault_of_decoded {segment : List Char} {fault : TokenFault}
    (h : decoded segment = .error fault) : fault = .base64 := by
  unfold decoded at h
  split at h
  · cases h
  · exact (Except.error.inj h).symm

/-- A header is read off the bytes of its segment. -/
theorem headerOf_eq_ok_iff {segment : List Char} {header : Header} :
    headerOf segment = .ok header ↔ ∃ bytes,
      Base64Url.decode? (String.ofList segment) = some bytes ∧
        Header.read? bytes = some header := by
  simp only [headerOf, bind_eq_ok_iff, decoded_eq_ok_iff]
  refine exists_congr fun bytes => and_congr_right fun _ => ?_
  cases Header.read? bytes <;> simp

theorem decode?_encodeJson (value : Json) :
    Base64Url.decode? (encodeJson value) = some (Utf8.encode value.print) :=
  Base64Url.decode?_encode _

/-- The segment of a value holds its printed bytes. -/
theorem decoded_encodeJson (value : Json) :
    decoded (encodeJson value).toList = .ok (Utf8.encode value.print) := by
  rw [decoded_eq_ok_iff, String.ofList_toList, decode?_encodeJson]

def message (header payload : Json) : Bytes :=
  Utf8.encode (encodeJson header ++ "." ++ encodeJson payload)

/-- The message to be signed, spelled out digit by digit. -/
theorem message_eq (header payload : Json) :
    message header payload =
      (Base64Url.digits (header.chars.flatMap String.utf8EncodeChar) ++
        '.' :: Base64Url.digits (payload.chars.flatMap String.utf8EncodeChar)).flatMap
          String.utf8EncodeChar := by
  have hjoin (a b : List Char) :
      String.ofList a ++ "." ++ String.ofList b = String.ofList (a ++ '.' :: b) := by
    rw [← String.toList_inj]
    simp [String.toList_append]
  simp only [message, encodeJson, Json.print, Base64Url.encode, Utf8.encode_ofList, hjoin]

def compact (header payload signature : Bytes) : String :=
  Base64Url.encode header ++ "." ++ Base64Url.encode payload ++ "." ++ Base64Url.encode signature

def signedBytes (header payload : Bytes) : Bytes :=
  Utf8.encode (Base64Url.encode header ++ "." ++ Base64Url.encode payload)

/-- The three parts of a token are the segments of its text. -/
theorem segments_compact (header payload signature : Bytes) :
    Text.segments '.' (compact header payload signature).toList =
      [(Base64Url.encode header).toList, (Base64Url.encode payload).toList,
        (Base64Url.encode signature).toList] := by
  refine (Text.segments_eq_iff (by simp)).mpr ⟨?_, ?_⟩
  · simp [compact, List.intercalate, String.toList_append]
  · simp [Base64Url.dot_not_mem_encode]

/-- No token has a blank in it. -/
theorem isBlank_of_mem_compact {header payload signature : Bytes} {c : Char}
    (h : c ∈ (compact header payload signature).toList) : Text.isBlank c = false := by
  simp only [compact, String.toList_append, List.mem_append] at h
  rcases h with (((h | h) | h) | h) | h
  · exact Base64Url.isBlank_of_mem_encode h
  · obtain rfl := List.mem_singleton.mp h
    rfl
  · exact Base64Url.isBlank_of_mem_encode h
  · obtain rfl := List.mem_singleton.mp h
    rfl
  · exact Base64Url.isBlank_of_mem_encode h

private theorem of?_compact (header payload signature : Bytes) :
    Segments.of? (compact header payload signature) = some ⟨(Base64Url.encode header).toList,
      (Base64Url.encode payload).toList, (Base64Url.encode signature).toList⟩ := by
  refine Segments.of?_eq_some_iff.mpr
    ⟨?_, Base64Url.dot_not_mem_encode _, Base64Url.dot_not_mem_encode _⟩
  simp [compact, String.toList_append]

private theorem signed_encode (header payload signature : Bytes) :
    Segments.signed ⟨(Base64Url.encode header).toList, (Base64Url.encode payload).toList,
      (Base64Url.encode signature).toList⟩ = signedBytes header payload := by
  have hjoin : String.ofList ((Base64Url.encode header).toList ++
      '.' :: (Base64Url.encode payload).toList) =
        Base64Url.encode header ++ "." ++ Base64Url.encode payload := by
    rw [← String.toList_inj]
    simp [String.toList_append]
  rw [Segments.signed, signedBytes, hjoin]

private theorem decoded_eq_ok_iff_encode {segment : List Char} {bytes : Bytes} :
    decoded segment = .ok bytes ↔ segment = (Base64Url.encode bytes).toList := by
  rw [decoded_eq_ok_iff, Base64Url.decode?_eq_some_iff, ← String.toList_inj, String.toList_ofList]

/-- Signing puts header, payload and signature into one text. -/
theorem sign_eq_compact (signer : Bytes → Bytes) (header payload : Json) :
    sign signer header payload = compact (Utf8.encode header.print) (Utf8.encode payload.print)
      (signer (message header payload)) := rfl

/-- The first two segments of a signed token do not depend on the signature. -/
theorem segments_sign (signer : Bytes → Bytes) (header payload : Json) :
    ∃ signature, Text.segments '.' (sign signer header payload).toList =
      [(encodeJson header).toList, (encodeJson payload).toList,
        (Base64Url.encode signature).toList] :=
  ⟨_, segments_compact _ _ _⟩

section Verify

variable {α : Type} {required : Algorithm} {key : Except TokenFault Check}
  {decode : Json → Option α} {header : Header} {claims : α}

/-- A token is verified if its header names the algorithm, the check takes its signature and its
payload is read and decoded. -/
theorem verify_eq_ok_iff {token : String} :
    verify required key decode token = .ok (header, claims) ↔
      ∃ s check signature payload value, Segments.of? token = some s ∧
        headerOf s.header = .ok header ∧ header.algorithm = required ∧ key = .ok check ∧
        decoded s.signature = .ok signature ∧ check s.signed signature = true ∧
        decoded s.payload = .ok payload ∧ Json.readBytes? payload = some value ∧
        decode value = some claims ∧ hasLegibleClaims value = true := by
  unfold verify
  constructor
  · intro h
    split at h
    · rename_i s hs
      obtain ⟨read, hheader, h⟩ := bind_eq_ok_iff.mp h
      split at h
      · cases h
      · rename_i halg
        obtain ⟨check, hkey, h⟩ := bind_eq_ok_iff.mp h
        obtain ⟨signature, hsignature, h⟩ := bind_eq_ok_iff.mp h
        split at h
        · cases h
        · rename_i hcheck
          obtain ⟨payload, hpayload, h⟩ := bind_eq_ok_iff.mp h
          split at h
          · rename_i value hvalue
            split at h
            · rename_i found hdecode
              split at h
              · rename_i hlegible
                obtain ⟨rfl, rfl⟩ := Prod.mk.inj (Except.ok.inj h)
                exact ⟨s, check, signature, payload, value, hs, hheader, Decidable.not_not.mp halg,
                  hkey, hsignature, by simpa using hcheck, hpayload, hvalue, hdecode, hlegible⟩
              · cases h
            · cases h
          · cases h
    · cases h
  · rintro ⟨s, check, signature, payload, value, hs, hheader, halg, hkey, hsignature, hcheck,
      hpayload, hvalue, hdecode, hlegible⟩
    simp [hs, hheader, halg, hkey, hsignature, hcheck, hpayload, hvalue, hdecode, hlegible, bind,
      Except.bind]

/-- A token whose signature the check does not take is refused for its header or for that signature.
Its payload plays no part. -/
theorem verify_of_unsigned {token : String} {s : Segments} (hs : Segments.of? token = some s)
    (hkey : key ≠ .error .json)
    (hunsigned : ∀ check signature, key = .ok check → decoded s.signature = .ok signature →
      check s.signed signature = false) :
    ∃ fault, verify required key decode token = .error fault ∧
      (fault = .json ↔ headerOf s.header = .error .json) := by
  simp only [verify, hs]
  cases hheader : headerOf s.header with
  | error fault => exact ⟨fault, rfl, by simp⟩
  | ok header =>
    by_cases halg : header.algorithm ≠ required
    · exact ⟨.invalidAlgorithm, by simp [halg, bind, Except.bind], by simp⟩
    · cases hk : key with
      | error fault =>
        refine ⟨fault, by simp [halg, bind, Except.bind], ?_⟩
        have hfault : fault ≠ .json := fun he => hkey (he ▸ hk)
        simp [hfault]
      | ok check =>
        cases hsignature : decoded s.signature with
        | error fault =>
          obtain rfl := fault_of_decoded hsignature
          exact ⟨.base64, by simp [halg, bind, Except.bind], by simp⟩
        | ok signature =>
          have hcheck := hunsigned check signature hk hsignature
          exact ⟨.invalidSignature, by simp [halg, hcheck, bind, Except.bind], by simp⟩

/-- A token is verified if it is the text of a header that names the algorithm, a payload that is
read and decoded, and a signature that the check takes for the two. -/
theorem verify_eq_ok_iff_compact {token : String} :
    verify required key decode token = .ok (header, claims) ↔
      ∃ head payload signature check value, token = compact head payload signature ∧
        Header.read? head = some header ∧ header.algorithm = required ∧ key = .ok check ∧
        check (signedBytes head payload) signature = true ∧
        Json.readBytes? payload = some value ∧ decode value = some claims ∧
        hasLegibleClaims value = true := by
  rw [verify_eq_ok_iff]
  constructor
  · rintro ⟨⟨h, p, g⟩, check, signature, payload, value, hs, hheader, halg, hkey, hsignature,
      hcheck, hpayload, hvalue, hdecode, hlegible⟩
    obtain ⟨head, hhead, hread⟩ := headerOf_eq_ok_iff.mp hheader
    obtain rfl := decoded_eq_ok_iff_encode.mp (decoded_eq_ok_iff.mpr hhead)
    obtain rfl := decoded_eq_ok_iff_encode.mp hpayload
    obtain rfl := decoded_eq_ok_iff_encode.mp hsignature
    rw [signed_encode] at hcheck
    refine ⟨head, payload, signature, check, value, ?_, hread, halg, hkey, hcheck, hvalue, hdecode,
      hlegible⟩
    rw [← String.toList_inj, (Segments.of?_eq_some_iff.mp hs).1]
    simp [compact, String.toList_append]
  · rintro ⟨head, payload, signature, check, value, rfl, hread, halg, hkey, hcheck, hvalue,
      hdecode, hlegible⟩
    rw [← signed_encode head payload signature] at hcheck
    refine ⟨_, check, signature, payload, value, of?_compact head payload signature,
      headerOf_eq_ok_iff.mpr ⟨head, ?_, hread⟩, halg, hkey, decoded_eq_ok_iff_encode.mpr rfl,
      hcheck, decoded_eq_ok_iff_encode.mpr rfl, hvalue, hdecode, hlegible⟩
    exact decoded_eq_ok_iff.mp (decoded_eq_ok_iff_encode.mpr rfl)

/-- What is signed here is verified wherever the check takes the signature. -/
theorem verify_sign (signer : Bytes → Bytes) {check : Check} {head payload value : Json}
    (hheader : Header.read? (Utf8.encode head.print) = some header)
    (halg : header.algorithm = required)
    (hcheck : check (message head payload) (signer (message head payload)) = true)
    (hvalue : Json.readBytes? (Utf8.encode payload.print) = some value)
    (hdecode : decode value = some claims) (hlegible : hasLegibleClaims value = true) :
    verify required (.ok check) decode (sign signer head payload) = .ok (header, claims) :=
  verify_eq_ok_iff_compact.mpr ⟨_, _, _, check, value, sign_eq_compact signer head payload, hheader,
    halg, rfl, hcheck, hvalue, hdecode, hlegible⟩

end Verify

end CredentialIssuer.Jwt
