import CredentialIssuer.Crypto.P256
import CredentialIssuer.Crypto.Rsa
import CredentialIssuer.Jose.Header
import CredentialIssuer.Json.Printer
import CredentialIssuer.Text.Segments

/-! Signed tokens of three segments: header, payload and signature. -/
namespace CredentialIssuer.Jwt

/-- The two last dots of a token part its segments. -/
structure Segments where
  header : List Char
  payload : List Char
  signature : List Char
  deriving DecidableEq, Repr

def splitLast? (cs : List Char) : Option (List Char × List Char) :=
  (Text.splitFirst? '.' cs.reverse).map fun (last, rest) => (rest.reverse, last.reverse)

def Segments.of? (token : String) : Option Segments := do
  let (signed, signature) ← splitLast? token.toList
  let (header, payload) ← splitLast? signed
  some ⟨header, payload, signature⟩

/-- The bytes that the signature is over. -/
def Segments.signed (s : Segments) : Bytes :=
  Utf8.encode (String.ofList (s.header ++ '.' :: s.payload))

/-- How an algorithm checks a signature under a key; the key may be unfit for it. -/
abbrev Check := (message signature : Bytes) → Bool

/-- ES256 takes a point of the curve and nothing else. -/
def es256Check? : VerifyingKey → Except TokenFault Check
  | .ec point =>
    match P256.point? point with
    | some point => .ok (P256.verify point)
    | none => .error .invalidEcdsaKey
  | _ => .error .invalidAlgorithm

def rs256Check (key : Rsa.PublicKey) : Check := RsaSignature.verify key

def decoded (segment : List Char) : Except TokenFault Bytes :=
  match Base64Url.decode? (String.ofList segment) with
  | some bytes => .ok bytes
  | none => .error .base64

def headerOf (segment : List Char) : Except TokenFault Header := do
  match Header.read? (← decoded segment) with
  | some header => .ok header
  | none => .error .json

def isNonemptyCompound : Json → Bool
  | .array (_ :: _) => true
  | .object (_ :: _) => true
  | _ => false

def isCompound : Json → Bool
  | .array _ => true
  | .object _ => true
  | _ => false

/-- The claims with a meaning of their own. -/
def registered : List String := ["exp", "nbf", "sub", "iss", "aud"]

def isLegible (r : Json.Record) : Bool :=
  r.given.all fun (name, value) =>
    if name = "exp" ∨ name = "nbf" then !isNonemptyCompound value
    else name ≠ "sub" || !isCompound value

/-- A payload is legible if its registered claims occur once and are no compound values where
single ones belong. Five values without names are taken for these claims. -/
def hasLegibleClaims : Json → Bool
  | .object members => ((Json.namedRecord? registered members).map isLegible).getD false
  | .array items =>
    items.length == registered.length
      && ((Json.record? registered (.array items)).map isLegible).getD false
  | _ => false

/-- The header and the payload of a token whose signature is right. The header is read first, then
the key and the signature are checked, and only then the payload is read. -/
def verify {α : Type} (required : Algorithm) (key : Except TokenFault Check)
    (decode : Json → Option α) (token : String) : Except TokenFault (Header × α) := do
  let some s := Segments.of? token | .error .invalidToken
  let header ← headerOf s.header
  if header.algorithm ≠ required then .error .invalidAlgorithm
  let check ← key
  let signature ← decoded s.signature
  if !check s.signed signature then .error .invalidSignature
  let payload ← decoded s.payload
  let some value := Json.readBytes? payload | .error .json
  let some claims := decode value | .error .json
  if hasLegibleClaims value then .ok (header, claims) else .error .json

def encodeJson (value : Json) : String := Base64Url.encode (Utf8.encode value.print)

/-- The token of a header and a payload, signed by a function of the bytes before it. -/
def sign (signer : Bytes → Bytes) (header payload : Json) : String :=
  let signed := encodeJson header ++ "." ++ encodeJson payload
  signed ++ "." ++ Base64Url.encode (signer (Utf8.encode signed))

end CredentialIssuer.Jwt
