import CredentialIssuer.Crypto.Oaep
import CredentialIssuer.RequestObject.Envelope
import CredentialIssuer.RequestObject.Failure

/-! From an encrypted request object to the signed token inside. -/
namespace CredentialIssuer.RequestObject

/-- Whoever holds the key: a function from envelopes to their contents. -/
abbrev KeyManagement := Envelope → Except ServiceError Bytes

/-- The one way of wrapping content keys. -/
def keyManagementAlgorithm : String := "RSA-OAEP-256"

/-- A key for the contents of an envelope, as long as the keys of its cipher. -/
structure ContentKey where
  enc : ContentEncryption
  bytes : Bytes
  length_eq : bytes.length = enc.keyLength

namespace Envelope

def unwrapped (key : Rsa.PrivateKey) (enc : ContentEncryption) (e : Envelope) :
    Except EnvelopeError ContentKey :=
  match Oaep.decrypt? key e.wrappedKey with
  | none => .error (.keyUnwrap "decryption error")
  | some bytes =>
    if h : bytes.length = enc.keyLength then .ok ⟨enc, bytes, h⟩
    else .error (.keyUnwrap ("Content key must be " ++ toString enc.keyLength ++ " bytes for "
      ++ enc.name))

/-- The key for the contents, once the algorithms and the length of the tag are as they must be. -/
def contentKey (key : Rsa.PrivateKey) (e : Envelope) : Except EnvelopeError ContentKey := do
  if e.header.alg ≠ keyManagementAlgorithm then .error (.unsupportedAlgorithm e.header.alg)
  let contentKey ← unwrapped key (← ContentEncryption.ofName e.header.enc) e
  if e.tag.length ≠ Gcm.tagLength then .error (.malformed "Invalid authentication tag length")
  return contentKey

/-- The contents under an RSA key; the header is authenticated along with them. -/
def attempt (key : Rsa.PrivateKey) (e : Envelope) : Except Stop Bytes :=
  match e.contentKey key with
  | .error error => .error (.failed error)
  | .ok k => k.enc.decrypt k.bytes e.iv (Utf8.encode e.encodedHeader) (e.ciphertext ++ e.tag)

/-- The cipher is asked with a key and a vector of the lengths that it takes. -/
theorem eq_refused_of_attempt {key : Rsa.PrivateKey} {e : Envelope} {fault : AesGcm.Fault}
    (h : e.attempt key = .error (.fault fault)) : fault = .refused := by
  unfold attempt at h
  split at h
  · cases h
  · rename_i k _
    exact ContentEncryption.eq_refused_of_decrypt k.length_eq h

/-- The contents, or what is told when there are none. Nothing is ever stopped on the way. -/
def decrypt (key : Rsa.PrivateKey) (e : Envelope) : Except EnvelopeError Bytes :=
  match h : e.attempt key with
  | .ok contents => .ok contents
  | .error (.failed error) => .error error
  | .error (.fault .nonceLength) => nomatch eq_refused_of_attempt h
  | .error (.fault .keyLength) => .error .contentDecryption
  | .error (.fault .refused) => .error .contentDecryption

end Envelope

/-- Reads an RSA key from its document. -/
def readPrivateKey (pem : String) : Except EnvelopeError Rsa.PrivateKey :=
  match Rsa.PrivateKey.ofPem? pem with
  | some key => .ok key
  | none => .error (.invalidKey "not an RSA private key")

/-- Key management with an RSA key at hand. -/
def rsaKeyManagement (key : Rsa.PrivateKey) : KeyManagement := fun e =>
  match e.decrypt key with
  | .ok contents => .ok contents
  | .error error => .error error.toServiceError

/-- What is looked at in the header of a signed token before its signature. -/
structure SignatureHeader where
  alg : String
  typ : Option String
  kid : Option String
  deriving DecidableEq, Repr

namespace SignatureHeader

def ofJson? (value : Json) : Option SignatureHeader := do
  let r ← Json.record? ["alg", "typ", "kid"] value
  some {
    alg := ← r.required "alg" Json.asText?
    typ := ← r.lenient "typ" Json.asText?
    kid := ← r.lenient "kid" Json.asText? }

def ofSegment? (cs : List Char) : Option SignatureHeader := do
  ofJson? (← Json.readBytes? (← Base64Url.decode? (String.ofList cs)))

end SignatureHeader

structure SignedRequest where
  token : String
  header : SignatureHeader
  deriving DecidableEq, Repr

/-- A signed token has three segments, the first of which is its header. -/
def SignedRequest.ofToken? (token : String) : Option SignedRequest :=
  match Text.segments '.' token.toList with
  | [header, _, _] => (SignatureHeader.ofSegment? header).map fun header => ⟨token, header⟩
  | _ => none

/-- The signed token in what the service answers. Whatever goes wrong, the failure is the same. -/
def signedIn (answer : Except ServiceError Bytes) : Except FatalFailure SignedRequest :=
  match answer with
  | .error _ => .error .decryptionFailed
  | .ok contents =>
    match (Utf8.decode? contents).bind SignedRequest.ofToken? with
    | some signed => .ok signed
    | none => .error .decryptionFailed

/-- Only what is read as an envelope is put to the service, where asking may have effects. -/
def decryptWith {m : Type → Type} [Monad m] (ask : Envelope → m (Except ServiceError Bytes))
    (compact : String) : m (Except FatalFailure SignedRequest) :=
  match Envelope.parse compact with
  | .error _ => pure (.error .decryptionFailed)
  | .ok envelope => do return signedIn (← ask envelope)

/-- Decryption where asking the service has no effects. -/
def decrypt (keys : KeyManagement) (compact : String) : Except FatalFailure SignedRequest :=
  Id.run (decryptWith (fun envelope => pure (keys envelope)) compact)

/-- An envelope that can be read is given to the key service. -/
theorem decrypt_of_parse {keys : KeyManagement} {compact : String} {envelope : Envelope}
    (h : Envelope.parse compact = .ok envelope) :
    decrypt keys compact = signedIn (keys envelope) := by
  simp [decrypt, decryptWith, h]

/-- A text that is no envelope never gets to the key service. -/
theorem decrypt_of_unparsed {keys : KeyManagement} {compact : String} {error : EnvelopeError}
    (h : Envelope.parse compact = .error error) :
    decrypt keys compact = .error .decryptionFailed := by
  simp [decrypt, decryptWith, h]

end CredentialIssuer.RequestObject
