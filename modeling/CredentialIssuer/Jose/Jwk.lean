import CredentialIssuer.Jose.Fault
import CredentialIssuer.Json.Reader
import CredentialIssuer.Json.Record
import CredentialIssuer.Text.Base64Url

/-! Public keys as JSON documents. -/
namespace CredentialIssuer

/-- The raw parts of a key, as decoded. -/
inductive VerifyingKey where
  /-- An uncompressed point. -/
  | ec (point : Bytes)
  | rsa (modulus exponent : Bytes)
  | hmac (secret : Bytes)
  | ed (point : Bytes)
  deriving DecidableEq, Repr

namespace Jwk

/-- The parts that tell the kinds of keys apart, still encoded. -/
inductive Material where
  | ec (curve x y : String)
  | rsa (n e : String)
  | oct (k : String)
  | okp (curve x : String)
  deriving DecidableEq, Repr

end Jwk

structure Jwk where
  material : Jwk.Material
  /-- Use, operations, algorithm, id and certificates. -/
  common : Json.Members
  deriving Repr

namespace Jwk

private def literal? (wanted : List String) (value : Json) : Option String :=
  value.asCase?.bind fun name => if wanted.contains name then some name else none

private def curve? : Json → Option String := literal? ["P-256", "P-384", "P-521", "Ed25519"]

private def ec? (members : Json.Members) : Option Material := do
  let r ← Json.namedRecord? ["kty", "crv", "x", "y"] members
  let _ ← r.required "kty" (literal? ["EC"])
  some (.ec (← r.required "crv" curve?) (← r.required "x" Json.asText?)
    (← r.required "y" Json.asText?))

private def rsa? (members : Json.Members) : Option Material := do
  let r ← Json.namedRecord? ["kty", "n", "e"] members
  let _ ← r.required "kty" (literal? ["RSA"])
  some (.rsa (← r.required "n" Json.asText?) (← r.required "e" Json.asText?))

private def oct? (members : Json.Members) : Option Material := do
  let r ← Json.namedRecord? ["kty", "k"] members
  let _ ← r.required "kty" (literal? ["oct"])
  some (.oct (← r.required "k" Json.asText?))

private def okp? (members : Json.Members) : Option Material := do
  let r ← Json.namedRecord? ["kty", "crv", "x"] members
  let _ ← r.required "kty" (literal? ["OKP"])
  some (.okp (← r.required "crv" curve?) (← r.required "x" Json.asText?))

private def knownAlgorithms : List String :=
  ["HS256", "HS384", "HS512", "ES256", "ES384", "RS256", "RS384", "RS512", "PS256", "PS384",
    "PS512", "EdDSA", "RSA1_5", "RSA-OAEP", "RSA-OAEP-256"]

/-- Other algorithms are allowed, but their names are not kept. -/
private def algorithm? (value : Json) : Option Json :=
  value.asCase?.map fun name =>
    .string (if knownAlgorithms.contains name then name else "UNKNOWN_ALGORITHM")

def text? (value : Json) : Option Json := value.asText?.map .string

def texts? (value : Json) : Option Json :=
  value.asTexts?.map fun texts => .array (texts.map .string)

private def commonFields : List (String × (Json → Option Json)) :=
  [("use", text?), ("key_ops", texts?), ("alg", algorithm?), ("kid", text?), ("x5u", text?),
    ("x5c", texts?), ("x5t", text?), ("x5t#S256", text?)]

/-- The fields of a list that are there, each as its reader gives it. -/
def collect? (fields : List (String × (Json → Option Json))) (r : Json.Record) :
    Option Json.Members :=
  fields.foldrM (fun (name, read) members =>
    (r.lenient name read).map fun
      | some value => (name, value) :: members
      | none => members) []

/-- The kinds are tried in a fixed order, and other members are skipped. -/
def ofJson? (value : Json) : Option Jwk := do
  let members ← value.asMembers?
  let common ← Json.namedRecord? (commonFields.map (·.1)) members
  let common ← collect? commonFields common
  let rest := members.filter fun m => !(commonFields.map (·.1)).contains m.1
  let material ← (ec? rest).or ((rsa? rest).or ((oct? rest).or (okp? rest)))
  some ⟨material, common⟩

def read? (text : String) : Option Jwk := do
  let value ← Json.read? text
  if value.isKeepable Json.maxLevels then ofJson? value else none

private def Material.members : Material → Json.Members
  | .ec curve x y => [("kty", .string "EC"), ("crv", .string curve), ("x", .string x),
      ("y", .string y)]
  | .rsa n e => [("kty", .string "RSA"), ("n", .string n), ("e", .string e)]
  | .oct k => [("kty", .string "oct"), ("k", .string k)]
  | .okp curve x => [("kty", .string "OKP"), ("crv", .string curve), ("x", .string x)]

def toJson (key : Jwk) : Json := .object (key.common ++ key.material.members)

/-- The mark of an uncompressed point. -/
private def uncompressed : UInt8 := 4

/-- The coordinates of a point are joined and not checked. -/
def verifyingKey? (key : Jwk) : Option VerifyingKey :=
  match key.material with
  | .ec _ x y => do
    some (.ec (uncompressed :: (← Base64Url.decode? x) ++ (← Base64Url.decode? y)))
  | .rsa n e => do some (.rsa (← Base64Url.decode? n) (← Base64Url.decode? e))
  | .oct k => (Base64Url.decode? k).map .hmac
  | .okp _ x => (Base64Url.decode? x).map .ed

end Jwk

/-- The key in a document. -/
def VerifyingKey.read (text : String) : Except TokenError VerifyingKey :=
  match Jwk.read? text with
  | none => .error (.invalidKey "not a key document")
  | some key =>
    match key.verifyingKey? with
    | none => .error (.ofFault .base64)
    | some key => .ok key

end CredentialIssuer
