import CredentialIssuer.Proofs.Json.Reader
import CredentialIssuer.Proofs.Json.Record
import CredentialIssuer.Proofs.RequestObject.Envelope

/-! Which texts are read as envelopes. -/
namespace CredentialIssuer.RequestObject

namespace EnvelopeHeader

def names : List String := ["alg", "enc", "typ", "cty", "kid"]

private theorem nodup_names : names.Nodup := by decide

/-- Both algorithms are named, and what else is known is no more than a text; none is repeated. -/
structure Fields (members : Json.Members) : Prop where
  alg : members.HasText "alg"
  enc : members.HasText "enc"
  typ : members.MayHaveText "typ"
  cty : members.MayHaveText "cty"
  kid : members.MayHaveText "kid"

private theorem Fields.once {members : Json.Members} (h : Fields members) :
    ∀ name ∈ names, (members.valuesOf name).length ≤ 1 := by
  simp only [names, List.forall_mem_cons]
  exact ⟨h.alg.once, h.enc.once, h.typ.once, h.cty.once, h.kid.once, by simp⟩

structure Legible (r : Json.Record) : Prop where
  alg : ∃ text, r.required "alg" Json.asText? = some text
  enc : ∃ text, r.required "enc" Json.asText? = some text
  typ : ∃ text, r.lenient "typ" Json.asText? = some text
  cty : ∃ text, r.lenient "cty" Json.asText? = some text
  kid : ∃ text, r.lenient "kid" Json.asText? = some text

private theorem exists_ofJson?_of_record? {value : Json} {r : Json.Record}
    (h : Json.record? names value = some r) :
    (∃ header, ofJson? value = some header) ↔ Legible r := by
  rw [names] at h
  constructor
  · rintro ⟨header, hheader⟩
    simp only [ofJson?, h, bind, Option.bind_some, Option.bind_eq_some_iff] at hheader
    obtain ⟨alg, halg, enc, henc, typ, htyp, cty, hcty, kid, hkid, -⟩ := hheader
    exact ⟨⟨alg, halg⟩, ⟨enc, henc⟩, ⟨typ, htyp⟩, ⟨cty, hcty⟩, ⟨kid, hkid⟩⟩
  · rintro ⟨⟨alg, halg⟩, ⟨enc, henc⟩, ⟨typ, htyp⟩, ⟨cty, hcty⟩, ⟨kid, hkid⟩⟩
    refine ⟨⟨alg, enc, typ, cty, kid⟩, ?_⟩
    simp only [ofJson?, h, halg, henc, htyp, hcty, hkid, bind, Option.bind_some]

private theorem fields_iff {members : Json.Members} {r : Json.Record}
    (hfield : ∀ name ∈ names, members.valuesOf name = (r.field? name).toList) :
    Fields members ↔ Legible r := by
  simp only [names, List.forall_mem_cons] at hfield
  obtain ⟨halg, henc, htyp, hcty, hkid, -⟩ := hfield
  constructor
  · rintro ⟨alg, enc, typ, cty, kid⟩
    exact ⟨(Json.Record.exists_required_iff halg).mpr alg,
      (Json.Record.exists_required_iff henc).mpr enc,
      (Json.Record.exists_lenient_iff htyp).mpr typ, (Json.Record.exists_lenient_iff hcty).mpr cty,
      (Json.Record.exists_lenient_iff hkid).mpr kid⟩
  · rintro ⟨alg, enc, typ, cty, kid⟩
    exact ⟨(Json.Record.exists_required_iff halg).mp alg,
      (Json.Record.exists_required_iff henc).mp enc, (Json.Record.exists_lenient_iff htyp).mp typ,
      (Json.Record.exists_lenient_iff hcty).mp cty, (Json.Record.exists_lenient_iff hkid).mp kid⟩

private theorem exists_ofJson?_iff {value : Json} :
    (∃ header, ofJson? value = some header) ↔
      ∃ members, Json.Spells names value members ∧ Fields members := by
  constructor
  · rintro ⟨header, h⟩
    obtain ⟨r, hr, -⟩ := Option.bind_eq_some_iff.mp h
    obtain ⟨members, hspells, hfield⟩ := Json.exists_spells nodup_names hr
    have hfields := (exists_ofJson?_of_record? hr).mp ⟨header, h⟩
    exact ⟨members, hspells, (fields_iff hfield).mpr hfields⟩
  · rintro ⟨members, hspells, hfields⟩
    obtain ⟨r, hr, hfield⟩ := hspells.exists_record? hfields.once
    exact (exists_ofJson?_of_record? hr).mpr ((fields_iff hfield).mp hfields)

def IsRecord (bytes : Bytes) : Prop :=
  ∃ value members, Json.readBytes? bytes = some value ∧ Json.Spells names value members ∧
    Fields members

def IsObject (bytes : Bytes) : Prop :=
  ∃ text members, Utf8.decode? bytes = some text ∧ Json.read? text = some (.object members) ∧
    Fields members

private theorem IsObject.isRecord {bytes : Bytes} (h : IsObject bytes) : IsRecord bytes := by
  obtain ⟨text, members, htext, hread, hfields⟩ := h
  obtain rfl := Utf8.decode?_eq_some_iff.mp htext
  refine ⟨.object members, members, ?_, .byName members, hfields⟩
  rw [Json.readBytes?, Utf8.symbols_encode]
  exact hread

end EnvelopeHeader

namespace Envelope

open EnvelopeHeader

/-- Five strict texts with dots between them, the first of them a header's. -/
def Grammatical (IsHeader : Bytes → Prop) (compact : String) : Prop :=
  ∃ header wrappedKey iv ciphertext tag : String,
    ".".intercalate [header, wrappedKey, iv, ciphertext, tag] = compact ∧
      (∀ part ∈ [header, wrappedKey, iv, ciphertext, tag], Base64Url.IsStrict part) ∧
      ∃ bytes, Base64Url.decode? header = some bytes ∧ IsHeader bytes

/-- Asking more of headers asks more of texts. -/
theorem Grammatical.imp {P Q : Bytes → Prop} {compact : String} (h : Grammatical P compact)
    (himp : ∀ {bytes}, P bytes → Q bytes) : Grammatical Q compact := by
  obtain ⟨header, wrappedKey, iv, ciphertext, tag, hjoin, hstrict, bytes, hbytes, hheader⟩ := h
  exact ⟨header, wrappedKey, iv, ciphertext, tag, hjoin, hstrict, bytes, hbytes, himp hheader⟩

private theorem exists_header_iff {bytes : Bytes} :
    (∃ header, (Json.readBytes? bytes).bind EnvelopeHeader.ofJson? = some header) ↔
      IsRecord bytes := by
  simp only [IsRecord, Option.bind_eq_some_iff]
  constructor
  · rintro ⟨header, value, hread, hvalue⟩
    obtain ⟨members, hspells, hfields⟩ := exists_ofJson?_iff.mp ⟨header, hvalue⟩
    exact ⟨value, members, hread, hspells, hfields⟩
  · rintro ⟨value, members, hread, hspells, hfields⟩
    obtain ⟨header, hvalue⟩ := exists_ofJson?_iff.mpr ⟨members, hspells, hfields⟩
    exact ⟨header, value, hread, hvalue⟩

private theorem exists_parse_iff {compact : String} :
    (∃ e, parse compact = .ok e) ↔ Grammatical IsRecord compact := by
  simp only [parse_eq_ok_iff, HeaderFits]
  constructor
  · rintro ⟨e, rfl, bytes, hbytes, hheader⟩
    have hencoded : e.encodedHeader = Base64Url.encode bytes :=
      Base64Url.decode?_eq_some_iff.mp hbytes
    refine ⟨e.encodedHeader, Base64Url.encode e.wrappedKey, Base64Url.encode e.iv,
      Base64Url.encode e.ciphertext, Base64Url.encode e.tag, rfl, ?_, bytes, hbytes,
      exists_header_iff.mp ⟨e.header, hheader⟩⟩
    simp [Base64Url.isStrict_iff, hencoded]
  · rintro ⟨header, wrappedKey, iv, ciphertext, tag, rfl, hstrict, bytes, hbytes, hheader⟩
    simp only [List.forall_mem_cons, Base64Url.isStrict_iff] at hstrict
    obtain ⟨-, ⟨keyBytes, rfl⟩, ⟨ivBytes, rfl⟩, ⟨ciphertextBytes, rfl⟩, ⟨tagBytes, rfl⟩, -⟩ :=
      hstrict
    obtain ⟨decoded, hdecoded⟩ := exists_header_iff.mpr hheader
    exact ⟨⟨decoded, header, keyBytes, ivBytes, ciphertextBytes, tagBytes⟩, rfl, bytes, hbytes,
      hdecoded⟩

private theorem malformed_of_segment {name : String} {cs : List Char} {error : EnvelopeError}
    (h : segment name cs = .error error) : ∃ message, error = .malformed message := by
  unfold segment at h
  split at h
  · cases h
  · exact ⟨_, (Except.error.inj h).symm⟩

private theorem malformed_of_readHeader {bytes : Bytes} {error : EnvelopeError}
    (h : readHeader bytes = .error error) : ∃ message, error = .malformed message := by
  unfold readHeader at h
  split at h
  · cases h
  · exact ⟨_, (Except.error.inj h).symm⟩

/-- Whatever is wrong with a text, it is told to be malformed. -/
theorem malformed_of_parse {compact : String} {error : EnvelopeError}
    (h : parse compact = .error error) : ∃ message, error = .malformed message := by
  unfold parse at h
  split at h
  · simp only [bind_eq_error_iff] at h
    obtain h | ⟨_, -, h | ⟨_, -, h | ⟨_, -, h | ⟨_, -, h | ⟨_, -, h | ⟨_, -, h⟩⟩⟩⟩⟩⟩ := h
    · exact malformed_of_segment h
    · exact malformed_of_readHeader h
    · exact malformed_of_segment h
    · exact malformed_of_segment h
    · exact malformed_of_segment h
    · exact malformed_of_segment h
    · cases h
  · exact ⟨_, (Except.error.inj h).symm⟩

/-- The header of a text is where its envelope has it. -/
theorem Grammatical.header {IsHeader : Bytes → Prop} {e : Envelope} (hfits : e.HeaderFits)
    (h : Grammatical IsHeader e.compact) :
    ∃ bytes, Base64Url.decode? e.encodedHeader = some bytes ∧ IsHeader bytes := by
  obtain ⟨sent, hsent, -⟩ := hfits
  obtain ⟨header, wrappedKey, iv, ciphertext, tag, hjoin, hstrict, bytes, hbytes, hheader⟩ := h
  have hfree : ∀ part ∈ [header, wrappedKey, iv, ciphertext, tag], '.' ∉ part.toList := by
    intro part hpart
    obtain ⟨bytes, rfl⟩ := Base64Url.isStrict_iff.mp (hstrict part hpart)
    exact Base64Url.dot_not_mem_encode bytes
  have hsegments : Text.segments '.' e.compact.toList =
      [header, wrappedKey, iv, ciphertext, tag].map String.toList := by
    refine (Text.segments_eq_iff (by simp)).mpr ⟨?_, by simpa using hfree⟩
    rw [← hjoin]
    simp
  have hencoded := Base64Url.decode?_eq_some_iff.mp hsent
  rw [segments_compact hencoded] at hsegments
  obtain ⟨hfirst, -⟩ := List.cons.inj hsegments
  rw [hencoded, String.toList_inj.mp hfirst]
  exact ⟨bytes, hbytes, hheader⟩

/-- A text is read where it has the form of an envelope, in particular where its header is an
object, and all others are told to be malformed. -/
theorem parse_recognizes_grammar (compact : String) :
    ((∃ e, parse compact = .ok e) ↔ Grammatical IsRecord compact) ∧
      (Grammatical IsObject compact → ∃ e, parse compact = .ok e) ∧
      ∀ error, parse compact = .error error → ∃ message, error = .malformed message := by
  refine ⟨exists_parse_iff, ?_, fun error => malformed_of_parse⟩
  intro h
  exact exists_parse_iff.mpr (h.imp IsObject.isRecord)

def withHeader (header : EnvelopeHeader) (encodedHeader : String) : Envelope where
  header := header
  encodedHeader := encodedHeader
  wrappedKey := [1]
  iv := List.replicate 12 2
  ciphertext := [99, 116]
  tag := List.replicate 16 3

def listedHeader : Json := .array [.string "RSA-OAEP-256", .string "A256GCM"]

/-- A header with a member besides its algorithms whose bytes are no text. -/
def garbledHeader : Bytes :=
  Utf8.encode "\x7b\"alg\":\"a\",\"enc\":\"x\",\"u\":\"" ++ 255 :: Utf8.encode "\"\x7d"

def listedText : String :=
  "WyJSU0EtT0FFUC0yNTYiLCJBMjU2R0NNIl0.AQ.AgICAgICAgICAgIC.Y3Q.AwMDAwMDAwMDAwMDAwMDAw"

def garbledText : String :=
  "eyJhbGciOiJhIiwiZW5jIjoieCIsInUiOiL_In0.AQ.AgICAgICAgICAgIC.Y3Q.AwMDAwMDAwMDAwMDAwMDAw"

private theorem parses_without_object {e : Envelope} {compact : String} {bytes : Bytes}
    (hcompact : e.compact = compact) (hbytes : Base64Url.decode? e.encodedHeader = some bytes)
    (hheader : (Json.readBytes? bytes).bind EnvelopeHeader.ofJson? = some e.header)
    (hobject : ¬ IsObject bytes) :
    (∃ e, parse compact = .ok e) ∧ ¬ Grammatical IsObject compact := by
  subst hcompact
  have hfits : e.HeaderFits := ⟨bytes, hbytes, hheader⟩
  refine ⟨⟨e, parse_eq_ok_iff.mpr ⟨rfl, hfits⟩⟩, ?_⟩
  intro h
  obtain ⟨sent, hsent, hsentObject⟩ := h.header hfits
  obtain rfl := Option.some.inj (hsent.symm.trans hbytes)
  exact hobject hsentObject

private theorem not_isObject_listedHeader : ¬ IsObject (Utf8.encode listedHeader.print) := by
  have hread : Json.readBytes? (Utf8.encode listedHeader.print) = some listedHeader :=
    Json.readBytes?_encode_print (by decide)
  rintro ⟨text, members, htext, hmembers, -⟩
  obtain rfl := Option.some.inj ((Utf8.decode_encode _).symm.trans htext)
  rw [Json.readBytes?_print, ← Json.read?_print, hmembers] at hread
  cases hread

private theorem not_isObject_garbledHeader : ¬ IsObject garbledHeader := by
  have hnone : Utf8.decode? garbledHeader = none := by decide +kernel
  rintro ⟨text, members, htext, -⟩
  cases hnone.symm.trans htext

/-- Headers that are no objects, or no texts, are taken all the same. -/
theorem listed_garbled_parse :
    ((∃ e, parse listedText = .ok e) ∧ ¬ Grammatical IsObject listedText) ∧
      (∃ e, parse garbledText = .ok e) ∧ ¬ Grammatical IsObject garbledText := by
  have hlisted :
      (withHeader ⟨"RSA-OAEP-256", "A256GCM", none, none, none⟩
        "WyJSU0EtT0FFUC0yNTYiLCJBMjU2R0NNIl0").compact = listedText := by decide +kernel
  have hgarbled :
      (withHeader ⟨"a", "x", none, none, none⟩
        "eyJhbGciOiJhIiwiZW5jIjoieCIsInUiOiL_In0").compact = garbledText := by decide +kernel
  exact ⟨parses_without_object hlisted (by decide +kernel) (by decide +kernel)
      not_isObject_listedHeader,
    parses_without_object hgarbled (by decide +kernel) (by decide +kernel)
      not_isObject_garbledHeader⟩

end Envelope

end CredentialIssuer.RequestObject
