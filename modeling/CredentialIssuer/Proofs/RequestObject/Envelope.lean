import CredentialIssuer.Proofs.Result
import CredentialIssuer.Proofs.Text.Base64Url
import CredentialIssuer.Proofs.Text.Segments
import CredentialIssuer.RequestObject.Envelope

/-! An envelope is read back from its compact text and from no other. -/
namespace CredentialIssuer.RequestObject.Envelope

private theorem segment_encode (name : String) (bytes : Bytes) :
    segment name (Base64Url.encode bytes).toList = .ok bytes := by
  rw [segment, String.ofList_toList, Base64Url.decode?_encode]

/-- The five parts of an envelope are the segments of its text. -/
theorem segments_compact {e : Envelope} {bytes : Bytes}
    (hencoded : e.encodedHeader = Base64Url.encode bytes) :
    Text.segments '.' e.compact.toList =
      [(Base64Url.encode bytes).toList, (Base64Url.encode e.wrappedKey).toList,
        (Base64Url.encode e.iv).toList, (Base64Url.encode e.ciphertext).toList,
        (Base64Url.encode e.tag).toList] := by
  refine (Text.segments_eq_iff (by simp)).mpr ⟨?_, ?_⟩
  · simp [compact, hencoded, List.intercalate, String.toList_append]
  · simp [Base64Url.dot_not_mem_encode]

theorem compact_ne_empty (e : Envelope) : e.compact ≠ "" := by
  intro h
  have hlist := congrArg String.toList h
  simp [compact, String.toList_append] at hlist

/-- The header as it was sent is the text of bytes that read as the header. -/
def HeaderFits (e : Envelope) : Prop :=
  ∃ bytes, Base64Url.decode? e.encodedHeader = some bytes ∧
    (Json.readBytes? bytes).bind EnvelopeHeader.ofJson? = some e.header

/-- The header as it was sent has to be the text of bytes that read as the header. -/
theorem parse_compact {e : Envelope} {bytes : Bytes}
    (hencoded : e.encodedHeader = Base64Url.encode bytes)
    (hheader : (Json.readBytes? bytes).bind EnvelopeHeader.ofJson? = some e.header) :
    parse e.compact = .ok e := by
  have hread : readHeader bytes = .ok e.header := by rw [readHeader, hheader]
  rw [parse, segments_compact hencoded]
  simp only [segment_encode, hread, String.ofList_toList, bind, Except.bind, pure, Except.pure]
  rw [← hencoded]

private theorem segment_eq_ok_iff {name : String} {cs : List Char} {bytes : Bytes} :
    segment name cs = .ok bytes ↔ String.ofList cs = Base64Url.encode bytes := by
  rw [segment, ← Base64Url.decode?_eq_some_iff]
  cases Base64Url.decode? (String.ofList cs) <;> simp

/-- A header is read from bytes of a record with its fields. -/
theorem readHeader_eq_ok_iff {bytes : Bytes} {header : EnvelopeHeader} :
    readHeader bytes = .ok header ↔
      (Json.readBytes? bytes).bind EnvelopeHeader.ofJson? = some header := by
  rw [readHeader]
  cases (Json.readBytes? bytes).bind EnvelopeHeader.ofJson? <;> simp

/-- An envelope is read from the text that it has, and from no other. -/
theorem parse_eq_ok_iff {compact : String} {e : Envelope} :
    parse compact = .ok e ↔ e.compact = compact ∧ e.HeaderFits := by
  constructor
  · intro h
    unfold parse at h
    split at h
    · rename_i header wrappedKey iv ciphertext tag hsegments
      simp only [bind_eq_ok_iff, segment_eq_ok_iff, readHeader_eq_ok_iff] at h
      obtain ⟨headerBytes, hheader, decoded, hdecoded, keyBytes, hkey, ivBytes, hiv,
        ciphertextBytes, hciphertext, tagBytes, htag, h⟩ := h
      obtain rfl := Except.ok.inj h
      refine ⟨?_, headerBytes, Base64Url.decode?_eq_some_iff.mpr hheader, hdecoded⟩
      obtain ⟨hjoin, -⟩ := (Text.segments_eq_iff (by simp)).mp hsegments
      rw [← String.toList_inj, ← hjoin]
      simp [Envelope.compact, ← hkey, ← hiv, ← hciphertext, ← htag, List.intercalate]
    · cases h
  · rintro ⟨rfl, bytes, hencoded, hheader⟩
    exact parse_compact (Base64Url.decode?_eq_some_iff.mp hencoded) hheader

/-- Texts that are read as envelopes and envelopes whose header fits are the same thing: each has
one of the other. -/
theorem parse_inverts_compact (compact : String) (e : Envelope) :
    (parse compact = .ok e ↔ e.compact = compact ∧ e.HeaderFits) ∧
      (e.HeaderFits → parse e.compact = .ok e) ∧
      ∀ other, parse compact = .ok e → parse other = .ok e → other = compact := by
  refine ⟨parse_eq_ok_iff, ?_, ?_⟩
  · intro hfits
    exact parse_eq_ok_iff.mpr ⟨rfl, hfits⟩
  · intro other hcompact hother
    obtain ⟨hsent, -⟩ := parse_eq_ok_iff.mp hcompact
    obtain ⟨hresent, -⟩ := parse_eq_ok_iff.mp hother
    exact hresent.symm.trans hsent

end CredentialIssuer.RequestObject.Envelope
