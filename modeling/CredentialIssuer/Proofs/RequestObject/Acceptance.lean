import CredentialIssuer.Proofs.Json.Reader
import CredentialIssuer.Proofs.RequestObject.Envelope
import CredentialIssuer.Proofs.RequestObject.Signature
import CredentialIssuer.Proofs.Text.Segments
import CredentialIssuer.Proofs.Text.Utf8
import CredentialIssuer.RequestObject.Validation

/-! When a request object is valid: what has to hold of its envelope, its signature and its claims,
and that nothing else is asked. -/
namespace CredentialIssuer.RequestObject

/-- The service opens the envelope to a text of three segments, the first of which is a header. -/
def Opens (keys : KeyManagement) (compact : String) (signed : SignedRequest) : Prop :=
  ∃ envelope header payload signature,
    Envelope.parse compact = .ok envelope ∧ keys envelope = .ok (Utf8.encode signed.token) ∧
    signed.token.toList = header ++ '.' :: payload ++ '.' :: signature ∧
    '.' ∉ header ∧ '.' ∉ payload ∧ '.' ∉ signature ∧
    SignatureHeader.ofSegment? header = some signed.header

private theorem ofToken?_eq_some_iff {token : String} {signed : SignedRequest} :
    SignedRequest.ofToken? token = some signed ↔
      signed.token = token ∧ ∃ header payload signature,
        token.toList = header ++ '.' :: payload ++ '.' :: signature ∧
        '.' ∉ header ∧ '.' ∉ payload ∧ '.' ∉ signature ∧
        SignatureHeader.ofSegment? header = some signed.header := by
  constructor
  · intro h
    unfold SignedRequest.ofToken? at h
    split at h
    · rename_i header payload signature hs
      obtain ⟨decoded, hd, rfl⟩ := Option.map_eq_some_iff.mp h
      obtain ⟨hjoin, hfree⟩ := (Text.segments_eq_iff (by simp)).mp hs
      exact ⟨rfl, header, payload, signature, by simpa [List.intercalate] using hjoin.symm,
        hfree _ (by simp), hfree _ (by simp), hfree _ (by simp), hd⟩
    · cases h
  · rintro ⟨rfl, header, payload, signature, hjoin, hh, hp, hs, hd⟩
    have hparts : Text.segments '.' signed.token.toList = [header, payload, signature] := by
      refine (Text.segments_eq_iff (by simp)).mpr ⟨by simp [List.intercalate, hjoin], ?_⟩
      simp [hh, hp, hs]
    simp [SignedRequest.ofToken?, hparts, hd]

/-- An answer of the key service is good if it is the bytes of a token of three segments. -/
theorem signedIn_eq_ok_iff {answer : Except ServiceError Bytes} {signed : SignedRequest} :
    signedIn answer = .ok signed ↔
      answer = .ok (Utf8.encode signed.token) ∧
        SignedRequest.ofToken? signed.token = some signed := by
  constructor
  · intro h
    unfold signedIn at h
    split at h
    · cases h
    · rename_i contents
      split at h
      · rename_i found hfound
        obtain rfl := Except.ok.inj h
        obtain ⟨token, htext, htoken⟩ := Option.bind_eq_some_iff.mp hfound
        obtain rfl := Utf8.decode?_eq_some_iff.mp htext
        obtain ⟨rfl, -⟩ := ofToken?_eq_some_iff.mp htoken
        exact ⟨rfl, htoken⟩
      · cases h
  · rintro ⟨rfl, h⟩
    simp [signedIn, Utf8.decode_encode, h]

/-- Decryption gives the token that the service opens the envelope to. -/
theorem decrypt_eq_ok_iff {keys : KeyManagement} {compact : String} {signed : SignedRequest} :
    decrypt keys compact = .ok signed ↔ Opens keys compact signed := by
  unfold Opens
  constructor
  · intro h
    cases hparse : Envelope.parse compact with
    | error error =>
      rw [decrypt_of_unparsed hparse] at h
      cases h
    | ok envelope =>
      rw [decrypt_of_parse hparse, signedIn_eq_ok_iff] at h
      obtain ⟨hkeys, htoken⟩ := h
      obtain ⟨-, header, payload, signature, hrest⟩ := ofToken?_eq_some_iff.mp htoken
      exact ⟨envelope, header, payload, signature, rfl, hkeys, hrest⟩
  · rintro ⟨envelope, header, payload, signature, hparse, hkeys, hrest⟩
    rw [decrypt_of_parse hparse, signedIn_eq_ok_iff]
    exact ⟨hkeys, ofToken?_eq_some_iff.mpr ⟨rfl, header, payload, signature, hrest⟩⟩

/-- The client of an id signed the token with its registered key, and the object in the payload of
that token reads as claims. -/
def Authentic (clients : ClientStore) (clientId : String) (signed : SignedRequest)
    (client : ClientTrust) (claims : Claims) : Prop :=
  clients clientId = .ok (some client) ∧ signed.header.alg = "ES256" ∧
  ∃ point payload, Jwk.HasPoint client.signingKey point ∧ SignedBy point signed.token payload ∧
    Claims.ofPayload payload = .ok claims

/-- Claims are looked at only in tokens that the client itself has signed. -/
theorem verifiedClaims_eq_ok_iff {v : Validator} {compact clientId : String}
    {client : ClientTrust} {claims : Claims} :
    v.verifiedClaims compact clientId = .ok (client, claims) ↔
      ∃ signed, Opens v.keys compact signed ∧
        Authentic v.clients clientId signed client claims := by
  unfold Validator.verifiedClaims Authentic
  simp only [bind_eq_ok_iff, decrypt_eq_ok_iff, verify_eq_ok_iff, exists_verified_iff]
  constructor
  · rintro ⟨signed, ho, verified, ⟨hc, halg, point, hpoint, hsigned⟩, read, hr, he⟩
    obtain ⟨rfl, rfl⟩ := Prod.mk.inj (Except.ok.inj he)
    exact ⟨signed, ho, hc, halg, point, verified.payload, hpoint, hsigned, hr⟩
  · rintro ⟨signed, ho, hc, halg, point, payload, hpoint, hsigned, hr⟩
    exact ⟨signed, ho, ⟨client, payload⟩, ⟨hc, halg, point, hpoint, hsigned⟩, claims, hr, rfl⟩

/-- The redirect target of claims is registered as it is written, and an absolute address. -/
def Trusted (claims : Claims) (client : ClientTrust) (uri : String) : Prop :=
  claims.redirectUri = some uri ∧ (∃ url, Url.parse uri = .ok url) ∧ uri ∈ client.redirectUris

/-- A redirect target is trusted if it is registered and an absolute address. -/
theorem trustedRedirect_eq_ok_iff {claims : Claims} {client : ClientTrust} {uri : String} :
    trustedRedirect claims client = .ok uri ↔ Trusted claims client uri := by
  unfold trustedRedirect Trusted
  constructor
  · intro h
    split at h
    · cases h
    · rename_i found hf
      split at h
      · cases h
      · rename_i url hu
        split at h
        · rename_i hr
          obtain rfl := Except.ok.inj h
          exact ⟨hf, ⟨url, hu⟩, by simpa [ClientTrust.isRegistered] using hr⟩
        · cases h
  · rintro ⟨hf, ⟨url, hu⟩, hr⟩
    simp [hf, hu, ClientTrust.isRegistered, hr]

def Timely (claims : Claims) (context : Context) : Prop :=
  ∃ exp nbf iat, claims.exp = some exp ∧ claims.nbf = some nbf ∧ claims.iat = some iat ∧
    Saturating.sub context.now context.clockSkew ≤ exp ∧
    nbf ≤ Saturating.add context.now context.clockSkew ∧
    lifetime context exp iat ≤ context.maxTtl

private theorem checkTimes_eq_ok_iff {claims : Claims} {context : Context} :
    checkTimes claims context = .ok () ↔ Timely claims context := by
  unfold checkTimes Timely
  constructor
  · intro h
    split at h
    · rename_i exp nbf iat he hn hi
      split at h
      · cases h
      · rename_i hexp
        split at h
        · cases h
        · rename_i hnbf
          split at h
          · cases h
          · rename_i httl
            exact ⟨exp, nbf, iat, he, hn, hi, Int64.not_lt.mp hexp, Int64.not_lt.mp hnbf,
              Int64.not_lt.mp httl⟩
    · cases h
  · rintro ⟨exp, nbf, iat, he, hn, hi, hexp, hnbf, httl⟩
    simp [he, hn, hi, Int64.not_lt.mpr hexp, Int64.not_lt.mpr hnbf, Int64.not_lt.mpr httl]

/-- What is asked of claims besides their redirect target. -/
structure Sound (claims : Claims) (context : Context) : Prop where
  subject : ∃ sub, claims.sub = some sub
  audience : ∃ aud, claims.aud = some aud ∧ context.client.audience ∈ aud.values
  issuer : claims.iss = some context.client.issuer
  responseType : claims.responseType = some "code"
  times : Timely claims context

private theorem absent_eq_nil_iff {α : Type} {name : String} {value : Option α} :
    absent name value = [] ↔ value.isSome := by
  cases value <;> simp [absent]

/-- The six claims that have to be there. -/
theorem checkRequired_eq_ok_iff {claims : Claims} {context : Context} :
    checkRequired claims context = .ok () ↔
      claims.exp.isSome ∧ claims.iat.isSome ∧ claims.iss.isSome ∧ claims.nbf.isSome ∧
        claims.responseType.isSome ∧ claims.sub.isSome := by
  have hm : checkRequired claims context = .ok () ↔ missingClaims claims = [] := by
    unfold checkRequired
    split <;> simp_all
  rw [hm]
  simp [missingClaims, absent_eq_nil_iff]

/-- The service has to be among those that the claims are meant for. -/
theorem checkAudience_eq_ok_iff {claims : Claims} {context : Context} :
    checkAudience claims context = .ok () ↔
      ∃ aud, claims.aud = some aud ∧ context.client.audience ∈ aud.values := by
  unfold checkAudience
  cases claims.aud with
  | none => simp
  | some aud => simp [Audience.names]

private theorem checkIssuer_eq_ok_iff {claims : Claims} {context : Context} :
    checkIssuer claims context = .ok () ↔ claims.iss.getD "" = context.client.issuer := by
  unfold checkIssuer
  by_cases h : claims.iss.getD "" = context.client.issuer <;> simp [h]

private theorem checkResponseType_eq_ok_iff {claims : Claims} {context : Context} :
    checkResponseType claims context = .ok () ↔ claims.responseType.getD "" = "code" := by
  unfold checkResponseType codeResponse
  by_cases h : claims.responseType.getD "" = "code" <;> simp [h]

/-- All checks pass exactly on sound claims. -/
theorem runChecks_eq_ok_iff {claims : Claims} {context : Context} :
    runChecks claims context = .ok () ↔ Sound claims context := by
  have hall : runChecks claims context = .ok () ↔
      checkRequired claims context = .ok () ∧ checkAudience claims context = .ok () ∧
      checkIssuer claims context = .ok () ∧ checkResponseType claims context = .ok () ∧
      checkTimes claims context = .ok () := by
    rw [runChecks, forM_eq_ok_iff]
    simp [checks]
  rw [hall, checkRequired_eq_ok_iff, checkAudience_eq_ok_iff, checkIssuer_eq_ok_iff,
    checkResponseType_eq_ok_iff, checkTimes_eq_ok_iff]
  constructor
  · rintro ⟨⟨-, -, hiss, -, hrt, hsub⟩, haud, hi, hr, ht⟩
    obtain ⟨iss, he⟩ := Option.isSome_iff_exists.mp hiss
    obtain ⟨kind, hk⟩ := Option.isSome_iff_exists.mp hrt
    exact ⟨Option.isSome_iff_exists.mp hsub, haud, by simpa [he] using hi, by simpa [hk] using hr,
      ht⟩
  · intro h
    obtain ⟨exp, nbf, iat, he, hn, hi, -⟩ := h.times
    obtain ⟨sub, hs⟩ := h.subject
    exact ⟨by simp [he, hn, hi, hs, h.issuer, h.responseType], h.audience, by simp [h.issuer],
      by simp [h.responseType], h.times⟩

/-- Claims are valid if their redirect target is trusted and they are sound. -/
theorem validateClaims_eq_valid_iff {claims : Claims} {context : Context}
    {request : ValidatedRequest} :
    validateClaims claims context = .valid request ↔
      ∃ uri, Trusted claims context.client uri ∧ Sound claims context ∧
        request = ⟨context.client.clientId, claims, uri⟩ := by
  unfold validateClaims
  constructor
  · intro h
    split at h
    · cases h
    · rename_i uri hu
      split at h
      · rename_i hr
        exact ⟨uri, trustedRedirect_eq_ok_iff.mp hu, runChecks_eq_ok_iff.mp hr,
          (Outcome.valid.inj h).symm⟩
      · cases h
  · rintro ⟨uri, hu, hr, rfl⟩
    simp [trustedRedirect_eq_ok_iff.mpr hu, runChecks_eq_ok_iff.mpr hr]

/-- A request object is valid exactly when it opens to a token that its client signed, and the
claims of that token are sound and have a trusted redirect target. The outcome holds those very
claims under the id of the client's record. -/
theorem validateAt_eq_valid_iff (v : Validator) (compact clientId : String) (now : Timestamp)
    (request : ValidatedRequest) :
    v.validateAt compact clientId now = .valid request ↔
      ∃ signed client claims uri, Opens v.keys compact signed ∧
        Authentic v.clients clientId signed client claims ∧ Trusted claims client uri ∧
        Sound claims (.of client now v.policy v.clockSkew) ∧
        request = ⟨client.clientId, claims, uri⟩ := by
  unfold Validator.validateAt
  constructor
  · intro h
    split at h
    · cases h
    · rename_i client claims hc
      obtain ⟨signed, ho, ha⟩ := verifiedClaims_eq_ok_iff.mp hc
      obtain ⟨uri, ht, hs, he⟩ := validateClaims_eq_valid_iff.mp h
      exact ⟨signed, client, claims, uri, ho, ha, ht, hs, he⟩
  · rintro ⟨signed, client, claims, uri, ho, ha, ht, hs, rfl⟩
    simp only [verifiedClaims_eq_ok_iff.mpr ⟨signed, ho, ha⟩]
    exact validateClaims_eq_valid_iff.mpr ⟨uri, ht, hs, rfl⟩

/-- The public key whose private half is one: the base point of the curve. -/
def sampleKey : Json :=
  .object [("kty", .string "EC"), ("crv", .string "P-256"),
    ("x", .string (Base64Url.encode (Bytes.ofNat 32 P256.generator.x))),
    ("y", .string (Base64Url.encode (Bytes.ofNat 32 P256.generator.y)))]

def samplePoint : Bytes :=
  4 :: Bytes.ofNat 32 P256.generator.x ++ Bytes.ofNat 32 P256.generator.y

def sampleClient : ClientTrust where
  clientId := "app"
  issuer := "app"
  audience := "issuer"
  signingKey := sampleKey.print
  redirectUris := ["app:back"]
  maxTokenTtl := .ofSeconds 60

def sampleHeader : Json := .object [("alg", .string "ES256")]

def samplePayload : Json :=
  .object [("iss", .string "app"), ("sub", .string "user"), ("aud", .string "issuer"),
    ("exp", .ofInt 60), ("nbf", .ofInt 0), ("iat", .ofInt 0), ("response_type", .string "code"),
    ("redirect_uri", .string "app:back")]

def sampleSignature : Bytes :=
  Bytes.ofNat 32 P256.generator.x ++
    Bytes.ofNat 32 0x236e4e02011992b91eff9a129bac731cc0e38efdc4b0ce14993e1e7bb63ed78d

def sampleToken : String := Jwt.sign (fun _ => sampleSignature) sampleHeader samplePayload

def sampleEnvelopeHeader : EnvelopeHeader := ⟨"RSA-OAEP-256", "A256GCM", none, none, none⟩

def sampleEnvelope : Envelope where
  header := sampleEnvelopeHeader
  encodedHeader := Base64Url.encode (Utf8.encode sampleEnvelopeHeader.toJson.print)
  wrappedKey := []
  iv := []
  ciphertext := []
  tag := []

/-- One client, and a key service that finds its request in every envelope. -/
def sampleValidator : Validator where
  keys _ := .ok (Utf8.encode sampleToken)
  clients id := .ok (if id = "app" then some sampleClient else none)
  policy := .fromNow
  clockSkew := .zero

/-- The sample envelope is read from its own text. -/
theorem parse_sampleEnvelope : Envelope.parse sampleEnvelope.compact = .ok sampleEnvelope := by
  have hread : (Json.readBytes? (Utf8.encode sampleEnvelopeHeader.toJson.print)).bind
      EnvelopeHeader.ofJson? = some sampleEnvelopeHeader := by
    rw [Json.readBytes?_print]
    decide +kernel
  exact Envelope.parse_compact rfl hread

/-- The header segment of a token that is written here reads as the header that was written. -/
theorem ofSegment?_encodeJson (header : Json) :
    SignatureHeader.ofSegment? (Jwt.encodeJson header).toList =
      (Json.readSymbols? (header.chars.map some)).bind SignatureHeader.ofJson? := by
  rw [SignatureHeader.ofSegment?, String.ofList_toList, Jwt.decode?_encodeJson,
    Option.bind_eq_bind, Option.bind_some, Json.readBytes?_print]
  rfl

private theorem sample_opens : Opens sampleValidator.keys sampleEnvelope.compact
    ⟨sampleToken, ⟨"ES256", none, none⟩⟩ := by
  have hheader : SignatureHeader.ofSegment? (Jwt.encodeJson sampleHeader).toList =
      some ⟨"ES256", none, none⟩ := by
    rw [ofSegment?_encodeJson]
    decide +kernel
  obtain ⟨signature, hsegments⟩ :=
    Jwt.segments_sign (fun _ => sampleSignature) sampleHeader samplePayload
  have htoken : SignedRequest.ofToken? sampleToken =
      some ⟨sampleToken, ⟨"ES256", none, none⟩⟩ := by
    rw [SignedRequest.ofToken?, sampleToken, hsegments]
    simp only [hheader, Option.map_some]
  obtain ⟨-, header, payload, signature, hparts⟩ := ofToken?_eq_some_iff.mp htoken
  exact ⟨sampleEnvelope, header, payload, signature, parse_sampleEnvelope, rfl, hparts⟩

theorem read_sampleKey :
    VerifyingKey.read sampleClient.signingKey = .ok (.ec samplePoint) := by
  have hread : ((Json.readSymbols? (sampleKey.chars.map some)).bind fun value =>
      if value.isKeepable Json.maxLevels then (Jwk.ofJson? value).bind Jwk.verifyingKey?
      else none) = some (.ec samplePoint) := by
    decide +kernel
  obtain ⟨value, hvalue, h⟩ := Option.bind_eq_some_iff.mp hread
  split at h
  · rename_i hkeepable
    obtain ⟨key, hkey, hpoint⟩ := Option.bind_eq_some_iff.mp h
    have hjwk : Jwk.read? sampleClient.signingKey = some key := by
      rw [Jwk.read?, sampleClient, Json.read?_print, hvalue]
      simpa [hkeepable] using hkey
    rw [VerifyingKey.read, hjwk]
    simp only [hpoint]
  · cases h

/-- The sample header names the one algorithm that is taken. -/
theorem read?_sampleHeader : ∃ header,
    Jwt.Header.read? (Utf8.encode sampleHeader.print) = some header ∧
      header.algorithm = .es256 := by
  have hread : (Jwt.Header.read? (Utf8.encode sampleHeader.print)).map (·.algorithm) =
      some .es256 := by
    rw [Jwt.Header.read?, Json.readBytes?_print]
    decide +kernel
  exact Option.map_eq_some_iff.mp hread

private theorem sample_claims : ∃ value members claims,
    Json.readBytes? (Utf8.encode samplePayload.print) = some value ∧
      payloadOf? value = some members ∧ Jwt.hasLegibleClaims value = true ∧
      Claims.ofPayload members = .ok claims ∧
      trustedRedirect claims sampleClient = .ok "app:back" ∧
      runChecks claims (.of sampleClient ⟨0, 0⟩ .fromNow .zero) = .ok () := by
  have hread : ((Json.readSymbols? (samplePayload.chars.map some)).bind fun value =>
      (payloadOf? value).bind fun members => (Claims.ofMembers? members).map fun claims =>
        (Jwt.hasLegibleClaims value, (trustedRedirect claims sampleClient).toOption,
          (runChecks claims (.of sampleClient ⟨0, 0⟩ .fromNow .zero)).toOption)) =
      some (true, some "app:back", some ()) := by
    decide +kernel
  obtain ⟨value, hvalue, h⟩ := Option.bind_eq_some_iff.mp hread
  obtain ⟨members, hmembers, h⟩ := Option.bind_eq_some_iff.mp h
  obtain ⟨claims, hclaims, h⟩ := Option.map_eq_some_iff.mp h
  simp only [Prod.mk.injEq, toOption_eq_some_iff] at h
  obtain ⟨hlegible, htrusted, hchecks⟩ := h
  refine ⟨value, members, claims, (Json.readBytes?_print samplePayload).trans hvalue, hmembers,
    hlegible, ?_, htrusted, hchecks⟩
  rw [Claims.ofPayload, hclaims]

private theorem sample_authentic {claims : Claims} {value : Json} {members : Json.Members}
    (hvalue : Json.readBytes? (Utf8.encode samplePayload.print) = some value)
    (hmembers : payloadOf? value = some members) (hlegible : Jwt.hasLegibleClaims value = true)
    (hclaims : Claims.ofPayload members = .ok claims) :
    Authentic sampleValidator.clients "app" ⟨sampleToken, ⟨"ES256", none, none⟩⟩ sampleClient
      claims := by
  have hpoint : P256.point? samplePoint = some P256.generator := by decide +kernel
  have hcheck : P256.verify P256.generator (Jwt.message sampleHeader samplePayload)
      sampleSignature = true := by
    rw [Jwt.message_eq]
    decide +kernel
  obtain ⟨header, hheader, halg⟩ := read?_sampleHeader
  have hkey : Jwt.es256Check? (.ec samplePoint) = .ok (P256.verify P256.generator) := by
    rw [Jwt.es256Check?, hpoint]
  have hverify : Jwt.verify .es256 (.ok (P256.verify P256.generator)) payloadOf? sampleToken =
      .ok (header, members) :=
    Jwt.verify_sign (fun _ => sampleSignature) hheader halg hcheck hvalue hmembers hlegible
  obtain ⟨point, hpoint, hsigned⟩ :=
    exists_verified_iff.mp ⟨_, header, read_sampleKey, hkey ▸ hverify⟩
  exact ⟨by simp [sampleValidator], rfl, point, members, hpoint, hsigned, hclaims⟩

/-- A request that its client has signed is valid. -/
theorem validateAt_sample : ∃ claims, sampleValidator.validateAt sampleEnvelope.compact "app"
    ⟨0, 0⟩ = .valid ⟨"app", claims, "app:back"⟩ := by
  obtain ⟨value, members, claims, hvalue, hmembers, hlegible, hclaims, htrusted, hchecks⟩ :=
    sample_claims
  have hverified : sampleValidator.verifiedClaims sampleEnvelope.compact "app" =
      .ok (sampleClient, claims) :=
    verifiedClaims_eq_ok_iff.mpr ⟨_, sample_opens,
      sample_authentic hvalue hmembers hlegible hclaims⟩
  refine ⟨claims, ?_⟩
  rw [Validator.validateAt, hverified]
  simp only [validateClaims]
  have hcontext : Context.of sampleClient ⟨0, 0⟩ sampleValidator.policy sampleValidator.clockSkew =
      .of sampleClient ⟨0, 0⟩ .fromNow .zero := rfl
  have hclient : (Context.of sampleClient ⟨0, 0⟩ .fromNow .zero).client = sampleClient := rfl
  rw [hcontext, hclient, htrusted, hchecks]
  rfl

end CredentialIssuer.RequestObject
