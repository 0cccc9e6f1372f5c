import CredentialIssuer.Credential.Issuance
import CredentialIssuer.Proofs.Credential.Signer
import CredentialIssuer.Proofs.Json.Kept
import CredentialIssuer.Proofs.Text.Blank

/-! The subject that a request token names, and that a signed credential names its own. -/
namespace CredentialIssuer

section Grammar

/-- The digits of an object that is kept, whose last member of the name is the subject. -/
structure HoldsSubject (payload : List Char) (subject : String) : Prop where
  digits : payload ≠ []
  object : ∃ (text : String) (members : Json.Members),
    payload = (Base64Url.encode (Utf8.encode text)).toList ∧
    Json.read? text = some (.object members) ∧
    (Json.object members).isKeepable Json.maxLevels = true ∧
    (members.valuesOf "sub").getLast? = some (.string subject)
  subject : subject ≠ ""

/-- A text that names a subject in the second of its segments. Blanks around the text are not part
of it, and what the other segments hold does not matter. -/
def Names (requestJwt subject : String) : Prop :=
  ∃ header payload tail, Text.IsCore requestJwt.toList (header ++ '.' :: payload ++ tail) ∧
    '.' ∉ header ∧ '.' ∉ payload ∧ (tail = [] ∨ ∃ rest, tail = '.' :: rest) ∧
    HoldsSubject payload subject

private theorem asMembers?_eq_some_iff {value : Json} {members : Json.Members} :
    value.asMembers? = some members ↔ value = .object members := by
  cases value <;> simp [Json.asMembers?]

/-- The subject of a document that is kept. -/
theorem keptSubject_iff {value : Json} {subject : String} :
    (∃ kept members last, value.kept? 0 = some kept ∧ kept.asMembers? = some members ∧
        members.get? "sub" = some last ∧ last.asText? = some subject) ↔
      ∃ members : Json.Members, value = .object members ∧
        (Json.object members).isKeepable Json.maxLevels = true ∧
        (members.valuesOf "sub").getLast? = some (.string subject) := by
  constructor
  · rintro ⟨kept, members, last, hkept, hmembers, hlast, htext⟩
    obtain ⟨hkeepable, rfl⟩ := Json.kept?_eq_some_iff.mp hkept
    obtain ⟨written, rfl, rfl⟩ :=
      Json.sorted_eq_object_iff.mp (asMembers?_eq_some_iff.mp hmembers)
    rw [Json.get?_sortedMembers] at hlast
    obtain ⟨first, hfirst, rfl⟩ := Option.map_eq_some_iff.mp hlast
    rw [Json.sorted_eq_string_iff.mp (Json.asText?_eq_some_iff.mp htext)] at hfirst
    exact ⟨written, rfl, hkeepable, hfirst⟩
  · rintro ⟨members, rfl, hkeepable, hlast⟩
    refine ⟨_, _, .string subject, Json.kept?_eq_some_iff.mpr ⟨hkeepable, rfl⟩, rfl, ?_, rfl⟩
    rw [Json.get?_sortedMembers, hlast]
    rfl

private theorem payloadSubject?_eq_some_iff {payload : List Char} {subject : String} :
    payloadSubject? payload = some subject ↔ HoldsSubject payload subject := by
  have hsome (found : String) :
      (if found.isEmpty then none else some found) = some subject ↔
        found = subject ∧ subject ≠ "" := by
    split <;> rename_i hempty
    · obtain rfl := String.isEmpty_iff.mp hempty
      exact ⟨nofun, fun ⟨heq, hne⟩ => absurd heq.symm hne⟩
    · have hne : found ≠ "" := fun h => hempty (String.isEmpty_iff.mpr h)
      exact ⟨fun h => Option.some.inj h ▸ ⟨rfl, hne⟩, fun h => congrArg some h.1⟩
  unfold payloadSubject?
  split
  · rename_i hempty
    exact ⟨nofun, fun h => absurd (List.isEmpty_iff.mp hempty) h.digits⟩
  · rename_i hdigits
    simp only [bind, Option.bind_eq_some_iff, hsome]
    constructor
    · rintro ⟨bytes, hbytes, value, hvalue, kept, hkept, members, hmembers, last, hlast, found,
        hfound, rfl, hsubject⟩
      obtain ⟨written, rfl, hkeepable, hwritten⟩ :=
        keptSubject_iff.mp ⟨kept, members, last, hkept, hmembers, hlast, hfound⟩
      obtain ⟨text, rfl, hread⟩ :=
        (Json.readBytes?_eq_some_iff_of_keepable hkeepable).mp hvalue
      have hpayload := Base64Url.decode?_eq_some_iff.mp hbytes
      refine ⟨fun h => hdigits (List.isEmpty_iff.mpr h), ⟨text, written, ?_, hread, hkeepable,
        hwritten⟩, hsubject⟩
      rw [← hpayload, String.toList_ofList]
    · rintro ⟨-, ⟨text, written, rfl, hread, hkeepable, hwritten⟩, hsubject⟩
      obtain ⟨kept, members, last, hkept, hmembers, hlast, hfound⟩ :=
        keptSubject_iff.mpr ⟨written, rfl, hkeepable, hwritten⟩
      have hvalue := (Json.readBytes?_eq_some_iff_of_keepable hkeepable).mpr ⟨text, rfl, hread⟩
      refine ⟨_, ?_, _, hvalue, kept, hkept, members, hmembers, last, hlast, subject, hfound, rfl,
        hsubject⟩
      rw [String.ofList_toList, Base64Url.decode?_encode]

private theorem requestSubject?_eq_some_iff {requestJwt subject : String} :
    requestSubject? requestJwt = some subject ↔ Names requestJwt subject := by
  unfold requestSubject?
  constructor
  · intro h
    split at h
    · rename_i header payload rest hsegments
      obtain ⟨tail, hcore, hheader, hpayload, htail⟩ :=
        Text.exists_segments_eq_iff.mp ⟨rest, hsegments⟩
      exact ⟨header, payload, tail, Text.trim_eq_iff.mp hcore, hheader, hpayload, htail,
        payloadSubject?_eq_some_iff.mp h⟩
    · cases h
  · rintro ⟨header, payload, tail, hcore, hheader, hpayload, htail, hholds⟩
    obtain ⟨rest, hsegments⟩ :=
      Text.exists_segments_eq_iff.mpr ⟨tail, Text.trim_eq_iff.mpr hcore, hheader, hpayload, htail⟩
    rw [hsegments]
    exact payloadSubject?_eq_some_iff.mpr hholds

/-- The subject of a request token is the one that it names. -/
theorem requestSubject_eq_ok_iff {requestJwt subject : String} :
    requestSubject requestJwt = .ok subject ↔ Names requestJwt subject := by
  rw [← requestSubject?_eq_some_iff, requestSubject]
  cases requestSubject? requestJwt <;> simp

/-- One error stands for all tokens that name no subject. -/
theorem requestSubject_eq_error_iff {requestJwt : String} {e : ServiceError} :
    requestSubject requestJwt = .error e ↔
      e = .invalidRequest "Invalid request Subject is missing from Request JWT" ∧
        ∀ subject, ¬ Names requestJwt subject := by
  simp only [← requestSubject?_eq_some_iff, requestSubject]
  cases requestSubject? requestJwt <;> simp [eq_comm]

end Grammar

section Depth

variable (levels : Nat)

private theorem Json.isKeepable_ofTexts (texts : List String) :
    (ofTexts texts).isKeepable (levels + 1) = true :=
  itemsKeepable_map (fun _ => rfl) texts

open Json (isKeepable membersKeepable)

private theorem DcsResponse.isKeepable_toJson (d : DcsResponse) :
    d.toJson.isKeepable (levels + 2) = true := by
  have hmessage := Json.membersKeepable_member? "errorMessage"
    (Json.isKeepable_ofTexts levels) d.errorMessage
  simp [toJson, isKeepable, membersKeepable, Json.ofUuid, hmessage]

private theorem NamePart.isKeepable_toJson (p : NamePart) :
    p.toJson.isKeepable (levels + 1) = true := by
  have hday (name : String) (day : Option Date) :
      membersKeepable levels (Json.member? name Json.ofDate day) = true :=
    Json.membersKeepable_member? name (fun _ => rfl) day
  simp [toJson, isKeepable, membersKeepable, ValidityWindow.members, Json.membersKeepable_append,
    hday]

private theorem CredentialSubject.isKeepable_toJson (s : CredentialSubject) :
    s.toJson.isKeepable (levels + 4) = true := by
  have hparts := Json.itemsKeepable_map (NamePart.isKeepable_toJson levels) s.nameParts
  simp [toJson, isKeepable, membersKeepable, Json.ofUuid, Json.ofDate, hparts,
    DcsResponse.isKeepable_toJson]

private theorem Credential.isKeepable_toJson (c : Credential) :
    c.toJson.isKeepable (levels + 5) = true := by
  simp [toJson, isKeepable, membersKeepable, Evidence.toJson, Json.ofNat,
    CredentialSubject.isKeepable_toJson]

/-- Claims nest six levels deep at the most, far less than what is kept. -/
theorem CredentialClaims.isKeepable_toJson (c : CredentialClaims) :
    c.toJson.isKeepable (levels + 6) = true := by
  simp [toJson, isKeepable, membersKeepable, Credential.isKeepable_toJson]

end Depth

/-- A token names the last subject in its payload, whatever its other segments hold. -/
theorem names_compact {head signature : Bytes} {text subject : String} {members : Json.Members}
    (hread : Json.read? text = some (.object members))
    (hkeepable : (Json.object members).isKeepable Json.maxLevels = true)
    (hlast : (members.valuesOf "sub").getLast? = some (.string subject)) (hsubject : subject ≠ "") :
    Names (Jwt.compact head (Utf8.encode text) signature) subject := by
  have htext : Utf8.encode text ≠ [] := by
    intro hnil
    obtain rfl : text = "" := by
      have hdecode := Utf8.decode_encode text
      rw [hnil] at hdecode
      exact (Option.some.inj hdecode).symm
    rw [Json.read?_empty] at hread
    cases hread
  obtain ⟨tail, htoken, hheader, hpayload, htail⟩ := Text.exists_segments_eq_iff.mp
    ⟨_, Jwt.segments_compact head (Utf8.encode text) signature⟩
  have hblank : ∀ c ∈ (Jwt.compact head (Utf8.encode text) signature).toList,
      Text.isBlank c = false := fun c => Jwt.isBlank_of_mem_compact
  refine ⟨_, _, tail, htoken ▸ Text.isCore_self hblank, hheader, hpayload, htail, ?_, ?_, hsubject⟩
  · exact Base64Url.encode_ne_nil htext
  · exact ⟨text, members, rfl, hread, hkeepable, hlast⟩

/-- A signed credential names its own subject. -/
theorem names_signCredential (signer : CredentialSigner) {c : CredentialClaims} (h : c.sub ≠ "") :
    Names (signer.signCredential c) c.sub := by
  rw [CredentialSigner.signCredential, CredentialSigner.sign, Jwt.sign_eq_compact]
  have hread : Json.read? c.toJson.print = some c.toJson := by
    rw [Json.read?_print, Json.readSymbols?_chars c.isExact_toJson]
  exact names_compact hread (c.isKeepable_toJson 121) rfl h

/-- A request token names a subject if it is written so, and there is one error for all that are
not. A signed credential is one that names its own subject. -/
theorem requestSubject_recognizes_names :
    (∀ requestJwt subject, requestSubject requestJwt = .ok subject ↔ Names requestJwt subject) ∧
    (∀ requestJwt e, requestSubject requestJwt = .error e ↔
      e = .invalidRequest "Invalid request Subject is missing from Request JWT" ∧
        ∀ subject, ¬ Names requestJwt subject) ∧
    ∀ (signer : CredentialSigner) (c : CredentialClaims), c.sub ≠ "" →
      requestSubject (signer.signCredential c) = .ok c.sub :=
  ⟨fun _ _ => requestSubject_eq_ok_iff, fun _ _ => requestSubject_eq_error_iff,
    fun signer _ h => requestSubject_eq_ok_iff.mpr (names_signCredential signer h)⟩

theorem escaped_subject_read_back :
    let claims := { CredentialSigner.sampleClaims with sub := "\"\\\x07😀" }
    claims.sub ≠ "" ∧
      requestSubject (CredentialSigner.signCredential ⟨CredentialSigner.sampleKey, none⟩ claims) =
        .ok "\"\\\x07😀" :=
  have h : "\"\\\x07😀" ≠ "" := by decide
  ⟨h, requestSubject_recognizes_names.2.2 ⟨CredentialSigner.sampleKey, none⟩
    { CredentialSigner.sampleClaims with sub := "\"\\\x07😀" } h⟩

end CredentialIssuer
