import CredentialIssuer.RequestObject.Decryption

/-! Encrypting signed request objects for the issuer. -/
namespace CredentialIssuer.RequestObject

/-- What is drawn at random for one envelope. -/
structure Entropy where
  contentKey : Bytes
  iv : Bytes
  /-- The seed of the padding of the wrapped key. -/
  seed : Bytes
  deriving Repr

/-- Reads a public key from its document. -/
def readPublicKey (pem : String) : Except EnvelopeError Rsa.PublicKey :=
  match Rsa.PublicKey.ofPem? pem with
  | some key => .ok key
  | none => .error (.invalidKey "not an RSA public key")

/-- The header of every envelope written here. -/
def EnvelopeHeader.standard (enc : ContentEncryption) : EnvelopeHeader where
  alg := keyManagementAlgorithm
  enc := enc.name
  typ := some "JWE"
  cty := some "JWT"
  kid := none

/-- The compact text of an envelope around a text. -/
def encrypt (key : Rsa.PublicKey) (enc : ContentEncryption) (entropy : Entropy) (text : String) :
    Except EnvelopeError String :=
  let header := EnvelopeHeader.standard enc
  let encodedHeader := Base64Url.encode (Utf8.encode header.toJson.print)
  match enc.encrypt entropy.contentKey entropy.iv (Utf8.encode encodedHeader)
      (Utf8.encode text) with
  | .error _ => .error (.encryption "Invalid Length")
  | .ok sealed =>
    let (ciphertext, tag) := AesGcm.split sealed
    match Oaep.encrypt? key entropy.seed entropy.contentKey with
    | some wrappedKey =>
      let envelope : Envelope := ⟨header, encodedHeader, wrappedKey, entropy.iv, ciphertext, tag⟩
      .ok envelope.compact
    | none => .error (.encryption "message too long")

end CredentialIssuer.RequestObject
