import CredentialIssuer.Json.Printer
import CredentialIssuer.Json.Reader
import CredentialIssuer.Json.Record
import CredentialIssuer.RequestObject.ContentEncryption
import CredentialIssuer.Text.Base64Url
import CredentialIssuer.Text.Segments

/-! The compact text of an encrypted request object: header, wrapped key, initialization vector,
ciphertext and tag, with dots between them. -/
namespace CredentialIssuer.RequestObject

structure EnvelopeHeader where
  alg : String
  enc : String
  typ : Option String
  cty : Option String
  kid : Option String
  deriving DecidableEq, Repr

namespace EnvelopeHeader

def ofJson? (value : Json) : Option EnvelopeHeader := do
  let r ← Json.record? ["alg", "enc", "typ", "cty", "kid"] value
  some {
    alg := ← r.required "alg" Json.asText?
    enc := ← r.required "enc" Json.asText?
    typ := ← r.lenient "typ" Json.asText?
    cty := ← r.lenient "cty" Json.asText?
    kid := ← r.lenient "kid" Json.asText? }

def toJson (h : EnvelopeHeader) : Json :=
  .object (("alg", .string h.alg) :: ("enc", .string h.enc) :: Json.member? "typ" .string h.typ
    ++ Json.member? "cty" .string h.cty ++ Json.member? "kid" .string h.kid)

end EnvelopeHeader

structure Envelope where
  header : EnvelopeHeader
  /-- The header as it was sent; it is authenticated in this form. -/
  encodedHeader : String
  wrappedKey : Bytes
  iv : Bytes
  ciphertext : Bytes
  tag : Bytes
  deriving DecidableEq, Repr

namespace Envelope

def segment (name : String) (cs : List Char) : Except EnvelopeError Bytes :=
  match Base64Url.decode? (String.ofList cs) with
  | some bytes => .ok bytes
  | none => .error (.malformed ("Invalid " ++ name ++ " encoding"))

def readHeader (bytes : Bytes) : Except EnvelopeError EnvelopeHeader :=
  match (Json.readBytes? bytes).bind EnvelopeHeader.ofJson? with
  | some header => .ok header
  | none => .error (.malformed "Invalid header JSON")

def parse (compact : String) : Except EnvelopeError Envelope :=
  match Text.segments '.' compact.toList with
  | [header, wrappedKey, iv, ciphertext, tag] => do
    let decoded ← readHeader (← segment "header" header)
    return {
      header := decoded
      encodedHeader := String.ofList header
      wrappedKey := ← segment "encrypted key" wrappedKey
      iv := ← segment "initialization vector" iv
      ciphertext := ← segment "ciphertext" ciphertext
      tag := ← segment "authentication tag" tag }
  | parts => .error (.malformed ("Expected 5 parts, found " ++ toString parts.length))

def compact (e : Envelope) : String :=
  e.encodedHeader ++ "." ++ Base64Url.encode e.wrappedKey ++ "." ++ Base64Url.encode e.iv
    ++ "." ++ Base64Url.encode e.ciphertext ++ "." ++ Base64Url.encode e.tag

end Envelope

end CredentialIssuer.RequestObject
