import CredentialIssuer.Proofs.RequestObject.Acceptance

/-! What is told of a request whose signature its client's key does not take. It hangs on the header
alone: the payload and the signature of such a request are never told of. -/
namespace CredentialIssuer.RequestObject

/-- The point under a client's id takes the signature of a token for its first two segments. -/
def SignatureFits (clients : ClientStore) (clientId token : String) : Prop :=
  ∃ client point s signature, clients clientId = .ok (some client) ∧
    Jwk.HasPoint client.signingKey point ∧ Jwt.Segments.of? token = some s ∧
    Jwt.decoded s.signature = .ok signature ∧ P256.verify point s.signed signature = true

/-- A token has these segments, and the first of them reads as the header of the request. -/
structure SignedRequest.HasSegments (signed : SignedRequest)
    (header payload signature : List Char) : Prop where
  segments : Text.segments '.' signed.token.toList = [header, payload, signature]
  header : SignatureHeader.ofSegment? header = some signed.header

private theorem decrypt_eq_ok_iff_segments {keys : KeyManagement} {compact : String}
    {signed : SignedRequest} :
    decrypt keys compact = .ok signed ↔
      ∃ envelope header payload signature, Envelope.parse compact = .ok envelope ∧
        keys envelope = .ok (Utf8.encode signed.token) ∧
        signed.HasSegments header payload signature := by
  rw [decrypt_eq_ok_iff]
  constructor
  · rintro ⟨envelope, header, payload, signature, hparse, hkeys, hjoin, hh, hp, hs, hread⟩
    refine ⟨envelope, header, payload, signature, hparse, hkeys, ?_, hread⟩
    refine (Text.segments_eq_iff (by simp)).mpr ⟨by simp [List.intercalate, hjoin], ?_⟩
    simp [hh, hp, hs]
  · rintro ⟨envelope, header, payload, signature, hparse, hkeys, hsegments, hread⟩
    obtain ⟨hjoin, hfree⟩ := (Text.segments_eq_iff (by simp)).mp hsegments
    exact ⟨envelope, header, payload, signature, hparse, hkeys,
      by simpa [List.intercalate] using hjoin.symm, hfree _ (by simp), hfree _ (by simp),
      hfree _ (by simp), hread⟩

/-- What is told of a token that names the one algorithm and is not signed with it. Its own header
comes before its signature. -/
def unsignedFailure (header : List Char) : FatalFailure :=
  match Jwt.headerOf header with
  | .error .json => .redirectUnreadable
  | _ => .signatureInvalid

private theorem unsignedFailure_of_json {header : List Char}
    (h : Jwt.headerOf header = .error .json) :
    unsignedFailure header = .redirectUnreadable := by
  rw [unsignedFailure, h]

private theorem unsignedFailure_of_ne_json {header : List Char}
    (h : Jwt.headerOf header ≠ .error .json) :
    unsignedFailure header = .signatureInvalid := by
  rw [unsignedFailure]
  split
  · rename_i he
    exact absurd he h
  · rfl

/-- What a request is refused with as long as its signature is not taken. -/
def refusal (clients : ClientStore) (clientId : String) (claimed : SignatureHeader)
    (header : List Char) : FatalFailure :=
  match clients clientId with
  | .error _ => .serverError
  | .ok none => .unknownClient
  | .ok (some client) =>
    match VerifyingKey.read client.signingKey with
    | .error _ => .keyParseFailure
    | .ok _ =>
      if claimed.alg ≠ requiredAlgorithm.name then .algorithmMismatch else unsignedFailure header

section Refusal

variable {clients : ClientStore} {clientId : String} {signed : SignedRequest}
  {header payload signature : List Char}

private theorem of?_of_hasSegments (h : signed.HasSegments header payload signature) :
    Jwt.Segments.of? signed.token = some ⟨header, payload, signature⟩ := by
  obtain ⟨hjoin, hfree⟩ := (Text.segments_eq_iff (by simp)).mp h.segments
  refine Jwt.Segments.of?_eq_some_iff.mpr ⟨?_, hfree _ (by simp), hfree _ (by simp)⟩
  simpa [List.intercalate] using hjoin.symm

/-- A key that is unfit for the algorithm is no fault of the token's JSON. -/
private theorem es256Check?_ne_json (key : VerifyingKey) : Jwt.es256Check? key ≠ .error .json := by
  cases key with
  | ec bytes => cases h : P256.point? bytes <;> simp [Jwt.es256Check?, h]
  | rsa modulus exponent => simp [Jwt.es256Check?]
  | hmac secret => simp [Jwt.es256Check?]
  | ed point => simp [Jwt.es256Check?]

private theorem verify_of_key (h : signed.HasSegments header payload signature)
    {client : ClientTrust} {key : VerifyingKey} (hclient : clients clientId = .ok (some client))
    (hkey : VerifyingKey.read client.signingKey = .ok key) (halg : signed.header.alg = "ES256")
    (hunsigned : ¬ SignatureFits clients clientId signed.token) :
    verify clients signed clientId = .error (unsignedFailure header) := by
  have hcheck : ∀ check bytes, Jwt.es256Check? key = .ok check →
      Jwt.decoded signature = .ok bytes →
      check (Jwt.Segments.signed ⟨header, payload, signature⟩) bytes = false := by
    intro check bytes hes hbytes
    obtain ⟨point, hpoint, rfl⟩ := exists_check_iff.mp ⟨key, hkey, hes⟩
    refine Bool.eq_false_iff.mpr fun htaken => hunsigned ?_
    exact ⟨client, point, _, bytes, hclient, hpoint, of?_of_hasSegments h, hbytes, htaken⟩
  obtain ⟨fault, hfault, hjson⟩ := @Jwt.verify_of_unsigned _ requiredAlgorithm _ payloadOf? _ _
    (of?_of_hasSegments h) (es256Check?_ne_json key) hcheck
  have hrequired : ¬ signed.header.alg ≠ requiredAlgorithm.name := Decidable.not_not.mpr halg
  simp only [verify, hclient, hkey, if_neg hrequired, hfault]
  cases fault with
  | json => rw [unsignedFailure_of_json (hjson.mp rfl)]
  | _ => rw [unsignedFailure_of_ne_json fun he => nomatch hjson.mpr he]

/-- Without a signature that fits, a token is refused on its header and client alone. -/
theorem verify_eq_refusal (h : signed.HasSegments header payload signature)
    (hunsigned : ¬ SignatureFits clients clientId signed.token) :
    verify clients signed clientId = .error (refusal clients clientId signed.header header) := by
  cases hclient : clients clientId with
  | error failure => simp only [verify, refusal, hclient]
  | ok found =>
    cases found with
    | none => simp only [verify, refusal, hclient]
    | some client =>
      cases hkey : VerifyingKey.read client.signingKey with
      | error failure => simp only [verify, refusal, hclient, hkey]
      | ok key =>
        by_cases halg : signed.header.alg = "ES256"
        · have hrequired : ¬ signed.header.alg ≠ requiredAlgorithm.name :=
            Decidable.not_not.mpr halg
          rw [verify_of_key h hclient hkey halg hunsigned]
          simp only [refusal, hclient, hkey, if_neg hrequired]
        · have hrequired : signed.header.alg ≠ requiredAlgorithm.name := halg
          simp only [verify, refusal, hclient, hkey, if_pos hrequired]

private theorem headerOf_of_refusal {claimed : SignatureHeader}
    (h : (refusal clients clientId claimed header).reason = .requestObjectInvalid) :
    Jwt.headerOf header = .error .json := by
  unfold refusal at h
  split at h
  · cases h
  · cases h
  · split at h
    · cases h
    · split at h
      · cases h
      · refine Classical.byContradiction fun hjson => ?_
        rw [unsignedFailure_of_ne_json hjson] at h
        cases h

end Refusal

/-- The own header of a token reads as one of a signed token. More is asked of it there than of the
header that is looked at before. -/
def HeaderLegible (token : String) : Prop :=
  ∃ s read, Jwt.Segments.of? token = some s ∧ Jwt.headerOf s.header = .ok read

private theorem headerLegible_iff {signed : SignedRequest} {header payload signature : List Char}
    (h : signed.HasSegments header payload signature) :
    HeaderLegible signed.token ↔ Jwt.headerOf header ≠ .error .json := by
  have hlegible : HeaderLegible signed.token ↔ ∃ read, Jwt.headerOf header = .ok read := by
    simp [HeaderLegible, of?_of_hasSegments h]
  obtain ⟨bytes, hbytes, -⟩ := Option.bind_eq_some_iff.mp h.header
  rw [hlegible, Jwt.headerOf, Jwt.decoded_eq_ok_iff.mpr hbytes]
  cases hread : Jwt.Header.read? bytes <;> simp [hread, bind, Except.bind]

private theorem not_signatureFits {clients : ClientStore} {clientId : String}
    {signed : SignedRequest}
    {header payload signature : List Char} (h : signed.HasSegments header payload signature)
    (hlength : ∀ bytes, Jwt.decoded signature = .ok bytes → bytes.length ≠ 64) :
    ¬ SignatureFits clients clientId signed.token := by
  rintro ⟨client, point, s, bytes, -, -, hs, hbytes, htaken⟩
  obtain rfl := Option.some.inj ((of?_of_hasSegments h).symm.trans hs)
  simp [P256.verify, hlength bytes hbytes] at htaken

/-- A request that comes out of an envelope fails for its claims only if its signature is taken, as
long as its own header is that of a signed token. Then a signature that is not taken is told of as
such. With another header the failure is that of claims, and no signature is looked at. -/
theorem signed_of_requestObjectInvalid (clients : ClientStore) (clientId : String)
    {keys : KeyManagement} {compact : String} {signed : SignedRequest}
    (h : decrypt keys compact = .ok signed) :
    (HeaderLegible signed.token → ∀ failure, verify clients signed clientId = .error failure →
      failure.reason = .requestObjectInvalid → SignatureFits clients clientId signed.token) ∧
    ∀ client key, clients clientId = .ok (some client) →
      VerifyingKey.read client.signingKey = .ok key → signed.header.alg = "ES256" →
      ¬ SignatureFits clients clientId signed.token →
      (HeaderLegible signed.token → verify clients signed clientId = .error .signatureInvalid) ∧
      (¬ HeaderLegible signed.token →
        verify clients signed clientId = .error .redirectUnreadable) := by
  obtain ⟨-, header, payload, signature, -, -, hs⟩ := decrypt_eq_ok_iff_segments.mp h
  rw [headerLegible_iff hs]
  constructor
  · intro hlegible failure hfailure hreason
    refine Classical.byContradiction fun hunsigned => ?_
    rw [verify_eq_refusal hs hunsigned] at hfailure
    obtain rfl := Except.error.inj hfailure
    exact hlegible (headerOf_of_refusal hreason)
  · intro client key hclient hkey halg hunsigned
    rw [verify_of_key hs hclient hkey halg hunsigned]
    refine ⟨fun hlegible => ?_, fun hillegible => ?_⟩
    · rw [unsignedFailure_of_ne_json hlegible]
    · rw [unsignedFailure_of_json (Classical.not_not.mp hillegible)]

private theorem decrypt_sampleEnvelope {signed : SignedRequest}
    {header payload signature : List Char} (h : signed.HasSegments header payload signature) :
    decrypt (fun _ => .ok (Utf8.encode signed.token)) sampleEnvelope.compact = .ok signed :=
  decrypt_eq_ok_iff_segments.mpr ⟨_, _, _, _, parse_sampleEnvelope, rfl, h⟩

def sampleUnsigned (header : Json) : SignedRequest where
  token := Jwt.sign (fun _ => []) header samplePayload
  header := ⟨"ES256", none, none⟩

section Unsigned

variable {header : Json} (h : SignatureHeader.ofSegment? (Jwt.encodeJson header).toList =
  some ⟨"ES256", none, none⟩)

include h

private theorem sampleUnsigned_hasSegments :
    (sampleUnsigned header).HasSegments (Jwt.encodeJson header).toList
      (Jwt.encodeJson samplePayload).toList [] :=
  ⟨Jwt.segments_compact _ _ _, h⟩

private theorem sampleUnsigned_not_fits :
    ¬ SignatureFits sampleValidator.clients "app" (sampleUnsigned header).token := by
  refine not_signatureFits (sampleUnsigned_hasSegments h) fun bytes hbytes => ?_
  obtain rfl := Except.ok.inj hbytes
  decide

private theorem headerLegible_sampleUnsigned :
    HeaderLegible (sampleUnsigned header).token ↔
      Jwt.Header.read? (Utf8.encode header.print) ≠ none := by
  rw [headerLegible_iff (sampleUnsigned_hasSegments h), Jwt.headerOf, Jwt.decoded_encodeJson]
  cases hread : Jwt.Header.read? (Utf8.encode header.print) <;> simp [hread, bind, Except.bind]

end Unsigned

private theorem ofSegment?_sampleHeader :
    SignatureHeader.ofSegment? (Jwt.encodeJson sampleHeader).toList =
      some ⟨"ES256", none, none⟩ := by
  rw [ofSegment?_encodeJson]
  decide +kernel

/-- The sample request without a signature is told that its signature is not valid. -/
theorem sampleUnsigned_signatureInvalid :
    decrypt (fun _ => .ok (Utf8.encode (sampleUnsigned sampleHeader).token))
        sampleEnvelope.compact = .ok (sampleUnsigned sampleHeader) ∧
      HeaderLegible (sampleUnsigned sampleHeader).token ∧
      verify sampleValidator.clients (sampleUnsigned sampleHeader) "app" =
        .error .signatureInvalid := by
  have hopen := decrypt_sampleEnvelope (sampleUnsigned_hasSegments ofSegment?_sampleHeader)
  have hlegible : HeaderLegible (sampleUnsigned sampleHeader).token := by
    rw [headerLegible_sampleUnsigned ofSegment?_sampleHeader]
    obtain ⟨read, hread, -⟩ := read?_sampleHeader
    simp [hread]
  obtain ⟨-, hrefused⟩ := signed_of_requestObjectInvalid sampleValidator.clients "app" hopen
  refine ⟨hopen, hlegible, ?_⟩
  exact (hrefused sampleClient _ rfl read_sampleKey rfl
    (sampleUnsigned_not_fits ofSegment?_sampleHeader)).1 hlegible

def extendedHeader : Json := .object [("alg", .string "ES256"), ("b64", .bool true)]

/-- With such a header a request that nobody signed is refused for its claims. -/
theorem extendedHeader_requestObjectInvalid :
    decrypt (fun _ => .ok (Utf8.encode (sampleUnsigned extendedHeader).token))
        sampleEnvelope.compact = .ok (sampleUnsigned extendedHeader) ∧
      sampleValidator.clients "app" = .ok (some sampleClient) ∧
      VerifyingKey.read sampleClient.signingKey = .ok (.ec samplePoint) ∧
      ¬ SignatureFits sampleValidator.clients "app" (sampleUnsigned extendedHeader).token ∧
      ∃ failure, verify sampleValidator.clients (sampleUnsigned extendedHeader) "app" =
          .error failure ∧ failure.reason = .requestObjectInvalid := by
  have hheader : SignatureHeader.ofSegment? (Jwt.encodeJson extendedHeader).toList =
      some ⟨"ES256", none, none⟩ := by
    rw [ofSegment?_encodeJson]
    decide +kernel
  have hillegible : Jwt.headerOf (Jwt.encodeJson extendedHeader).toList = .error .json := by
    have hnone : Jwt.Header.read? (Utf8.encode extendedHeader.print) = none := by
      rw [Jwt.Header.read?, Json.readBytes?_print, ← Option.isNone_iff_eq_none]
      decide +kernel
    rw [Jwt.headerOf, Jwt.decoded_encodeJson]
    simp [hnone, bind, Except.bind]
  have hsegments := sampleUnsigned_hasSegments hheader
  have hunsigned := sampleUnsigned_not_fits hheader
  refine ⟨decrypt_sampleEnvelope hsegments, rfl, read_sampleKey, hunsigned, .redirectUnreadable, ?_,
    rfl⟩
  rw [verify_of_key hsegments rfl read_sampleKey rfl hunsigned, unsignedFailure_of_json hillegible]

/-- Two tokens with one header, neither of them signed by the client's key, are refused alike. What
their payloads and signatures are, or whether they are anything, makes no difference, nor does the
time or how they were encrypted. -/
theorem unsigned_requests_alike (clients : ClientStore) (clientId : String)
    {signed signed' : SignedRequest} {header payload payload' signature signature' : List Char}
    (h : signed.HasSegments header payload signature)
    (h' : signed'.HasSegments header payload' signature')
    (hunsigned : ¬ SignatureFits clients clientId signed.token)
    (hunsigned' : ¬ SignatureFits clients clientId signed'.token) :
    ∃ failure, verify clients signed clientId = .error failure ∧
      verify clients signed' clientId = .error failure ∧
      ∀ v : Validator, v.clients = clients → ∀ compact now,
        decrypt v.keys compact = .ok signed ∨ decrypt v.keys compact = .ok signed' →
        v.validateAt compact clientId now = .fatal failure := by
  have hheader : signed.header = signed'.header :=
    Option.some.inj (h.header.symm.trans h'.header)
  have hfirst := verify_eq_refusal h hunsigned
  have hsecond := verify_eq_refusal h' hunsigned'
  rw [← hheader] at hsecond
  refine ⟨_, hfirst, hsecond, ?_⟩
  rintro v rfl compact now (hopen | hopen)
  · simp only [Validator.validateAt, Validator.verifiedClaims, hopen, hfirst, bind, Except.bind]
  · simp only [Validator.validateAt, Validator.verifiedClaims, hopen, hsecond, bind, Except.bind]

def sampleGarbled : SignedRequest where
  token := Jwt.encodeJson sampleHeader ++ ".!."
  header := ⟨"ES256", none, none⟩

private theorem sampleGarbled_hasSegments :
    sampleGarbled.HasSegments (Jwt.encodeJson sampleHeader).toList ['!'] [] := by
  refine ⟨(Text.segments_eq_iff (by simp)).mpr ⟨?_, ?_⟩, ofSegment?_sampleHeader⟩
  · simp [sampleGarbled, List.intercalate]
  · simp [Jwt.encodeJson, Base64Url.dot_not_mem_encode]

/-- An unsigned request is answered as one whose payload cannot even be read, at any time. -/
theorem sampleUnsigned_garbled_alike :
    ∃ failure, ∀ signed ∈ [sampleUnsigned sampleHeader, sampleGarbled], ∀ now,
      Validator.validateAt
          { sampleValidator with keys := fun _ => .ok (Utf8.encode signed.token) }
          sampleEnvelope.compact "app" now =
        .fatal failure := by
  have hfirst := sampleUnsigned_hasSegments ofSegment?_sampleHeader
  have hsecond := sampleGarbled_hasSegments
  have hunsigned : ¬ SignatureFits sampleValidator.clients "app" sampleGarbled.token := by
    refine not_signatureFits hsecond fun bytes hbytes => ?_
    obtain rfl := Except.ok.inj hbytes
    decide
  obtain ⟨failure, -, -, halike⟩ := unsigned_requests_alike sampleValidator.clients "app"
    hfirst hsecond (sampleUnsigned_not_fits ofSegment?_sampleHeader) hunsigned
  refine ⟨failure, fun signed hsigned now => ?_⟩
  refine halike { sampleValidator with keys := fun _ => .ok (Utf8.encode signed.token) } rfl _ _ ?_
  simp only [List.mem_cons, List.not_mem_nil, or_false] at hsigned
  rcases hsigned with rfl | rfl
  · exact .inl (decrypt_sampleEnvelope hfirst)
  · exact .inr (decrypt_sampleEnvelope hsecond)

end CredentialIssuer.RequestObject
