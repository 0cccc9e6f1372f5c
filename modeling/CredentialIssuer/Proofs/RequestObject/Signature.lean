import CredentialIssuer.Proofs.Jose.Jwt
import CredentialIssuer.RequestObject.Validation

/-! Which tokens are taken as signed by a client: those whose own header names the one algorithm and
whose signature fits the point in the client's key document. Keys of other kinds open nothing. -/
namespace CredentialIssuer

/-- A key document of the elliptic-curve kind holds the coordinates of a point of the curve. -/
def Jwk.HasPoint (document : String) (point : P256.Point) : Prop :=
  ∃ curve x y common, Jwk.read? document =
      some ⟨.ec curve (Base64Url.encode x) (Base64Url.encode y), common⟩ ∧
    P256.point? (4 :: x ++ y) = some point

private theorem verifyingKey?_eq_ec_iff {key : Jwk} {point : Bytes} :
    key.verifyingKey? = some (.ec point) ↔
      ∃ curve x y, key.material = .ec curve (Base64Url.encode x) (Base64Url.encode y) ∧
        point = 4 :: x ++ y := by
  obtain ⟨material, common⟩ := key
  cases material with
  | ec curve xText yText =>
    have hjoin : Jwk.verifyingKey? ⟨.ec curve xText yText, common⟩ =
        (Base64Url.decode? xText).bind fun x => (Base64Url.decode? yText).bind fun y =>
          some (.ec (4 :: x ++ y)) := rfl
    rw [hjoin]
    simp only [Option.bind_eq_some_iff, Base64Url.decode?_eq_some_iff]
    constructor
    · rintro ⟨x, rfl, y, rfl, h⟩
      exact ⟨curve, x, y, rfl, (VerifyingKey.ec.inj (Option.some.inj h)).symm⟩
    · rintro ⟨_, x, y, hmaterial, rfl⟩
      obtain ⟨rfl, rfl, rfl⟩ := Jwk.Material.ec.inj hmaterial
      exact ⟨x, rfl, y, rfl, rfl⟩
  | rsa n e => simp [Jwk.verifyingKey?, Option.bind_eq_some_iff]
  | oct k => simp [Jwk.verifyingKey?]
  | okp curve x => simp [Jwk.verifyingKey?]

private theorem read_eq_ok_iff {document : String} {key : VerifyingKey} :
    VerifyingKey.read document = .ok key ↔
      ∃ jwk, Jwk.read? document = some jwk ∧ jwk.verifyingKey? = some key := by
  unfold VerifyingKey.read
  cases Jwk.read? document with
  | none => simp
  | some jwk => cases h : jwk.verifyingKey? <;> simp [h]

private theorem es256Check?_eq_ok_iff {key : VerifyingKey} {check : Jwt.Check} :
    Jwt.es256Check? key = .ok check ↔
      ∃ bytes point, key = .ec bytes ∧ P256.point? bytes = some point ∧
        check = P256.verify point := by
  cases key with
  | ec bytes => cases h : P256.point? bytes <;> simp [Jwt.es256Check?, h, eq_comm]
  | rsa modulus exponent => simp [Jwt.es256Check?]
  | hmac secret => simp [Jwt.es256Check?]
  | ed point => simp [Jwt.es256Check?]

/-- The one algorithm takes the keys that hold a point and no others. -/
theorem exists_check_iff {document : String} {check : Jwt.Check} :
    (∃ key, VerifyingKey.read document = .ok key ∧ Jwt.es256Check? key = .ok check) ↔
      ∃ point, Jwk.HasPoint document point ∧ check = P256.verify point := by
  simp only [read_eq_ok_iff, es256Check?_eq_ok_iff, Jwk.HasPoint]
  constructor
  · rintro ⟨_, ⟨⟨material, common⟩, hread, hkey⟩, _, point, rfl, hpoint, rfl⟩
    obtain ⟨curve, x, y, rfl, rfl⟩ := verifyingKey?_eq_ec_iff.mp hkey
    exact ⟨point, ⟨curve, x, y, common, hread, hpoint⟩, rfl⟩
  · rintro ⟨point, ⟨curve, x, y, common, hread, hpoint⟩, rfl⟩
    exact ⟨.ec (4 :: x ++ y), ⟨_, hread, verifyingKey?_eq_ec_iff.mpr ⟨curve, x, y, rfl, rfl⟩⟩,
      _, point, rfl, hpoint, rfl⟩

namespace RequestObject

/-- A payload is an object that is kept. -/
theorem payloadOf?_eq_some_iff {value : Json} {payload : Json.Members} :
    payloadOf? value = some payload ↔
      ∃ members, value = .object members ∧ value.kept? 0 = some (.object payload) := by
  have hmembers {v : Json} {m : Json.Members} : v.asMembers? = some m ↔ v = .object m := by
    cases v <;> simp [Json.asMembers?]
  simp only [payloadOf?, Option.bind_eq_some_iff, hmembers, exists_and_right]
  simp

/-- A token whose own header names the one algorithm and whose signature fits a point, and the
members of the object in its payload. -/
def SignedBy (point : P256.Point) (token : String) (payload : Json.Members) : Prop :=
  ∃ headerBytes payloadBytes signature header members,
    token = Jwt.compact headerBytes payloadBytes signature ∧
    Jwt.Header.read? headerBytes = some header ∧ header.algorithm = .es256 ∧
    P256.verify point (Jwt.signedBytes headerBytes payloadBytes) signature = true ∧
    Json.readBytes? payloadBytes = some (.object members) ∧
    (Json.object members).kept? 0 = some (.object payload) ∧
    Jwt.hasLegibleClaims (.object members) = true

/-- The token is verified under the key of a document exactly when a point in it signed the token,
and what comes out is the object in the payload. -/
theorem exists_verified_iff {document token : String} {payload : Json.Members} :
    (∃ key header, VerifyingKey.read document = .ok key ∧
        Jwt.verify .es256 (Jwt.es256Check? key) payloadOf? token = .ok (header, payload)) ↔
      ∃ point, Jwk.HasPoint document point ∧ SignedBy point token payload := by
  simp only [Jwt.verify_eq_ok_iff_compact, payloadOf?_eq_some_iff]
  constructor
  · rintro ⟨key, header, hkey, headerBytes, payloadBytes, signature, check, _, htoken, hheader,
      halgorithm, hcheck, hsignature, hpayload, ⟨members, rfl, hkept⟩, hlegible⟩
    obtain ⟨point, hpoint, rfl⟩ := exists_check_iff.mp ⟨key, hkey, hcheck⟩
    exact ⟨point, hpoint, headerBytes, payloadBytes, signature, header, members, htoken, hheader,
      halgorithm, hsignature, hpayload, hkept, hlegible⟩
  · rintro ⟨point, hpoint, headerBytes, payloadBytes, signature, header, members, htoken, hheader,
      halgorithm, hsignature, hpayload, hkept, hlegible⟩
    obtain ⟨key, hkey, hcheck⟩ := exists_check_iff.mpr ⟨point, hpoint, rfl⟩
    exact ⟨key, header, hkey, headerBytes, payloadBytes, signature, _, _, htoken, hheader,
      halgorithm, hcheck, hsignature, hpayload, ⟨members, rfl, hkept⟩, hlegible⟩

/-- A token is verified under the key of the client that it is sent for. -/
theorem verify_eq_ok_iff {clients : ClientStore} {signed : SignedRequest} {clientId : String}
    {verified : VerifiedRequest} :
    verify clients signed clientId = .ok verified ↔
      clients clientId = .ok (some verified.client) ∧ signed.header.alg = "ES256" ∧
      ∃ key header, VerifyingKey.read verified.client.signingKey = .ok key ∧
        Jwt.verify .es256 (Jwt.es256Check? key) payloadOf? signed.token =
          .ok (header, verified.payload) := by
  unfold verify
  constructor
  · intro h
    split at h
    · cases h
    · cases h
    · rename_i client hc
      split at h
      · cases h
      · rename_i key hk
        split at h
        · cases h
        · rename_i halg
          split at h
          · rename_i header payload hv
            obtain rfl := Except.ok.inj h
            exact ⟨hc, Decidable.not_not.mp halg, key, header, hk, hv⟩
          · cases h
          · cases h
  · rintro ⟨hc, halg, key, header, hk, hv⟩
    simp only [hc, hk]
    rw [if_neg (by simp [halg, requiredAlgorithm, Algorithm.name])]
    simp [requiredAlgorithm, hv]

/-- A request is verified exactly when it is said to be signed with the one algorithm, the record
under the client's id holds a point of the curve as its key, and that point signed the token. What
comes out is that record and the payload of that token. -/
theorem verify_eq_ok_iff_signedBy (clients : ClientStore) (request : SignedRequest)
    (clientId : String) (verified : VerifiedRequest) :
    verify clients request clientId = .ok verified ↔
      clients clientId = .ok (some verified.client) ∧ request.header.alg = "ES256" ∧
      ∃ point, Jwk.HasPoint verified.client.signingKey point ∧
        SignedBy point request.token verified.payload := by
  rw [verify_eq_ok_iff, exists_verified_iff]

end RequestObject

end CredentialIssuer
