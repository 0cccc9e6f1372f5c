import CredentialIssuer.Crypto.AesGcm
import CredentialIssuer.Error

/-! The ciphers of request object contents, and the errors of encrypted envelopes. -/
namespace CredentialIssuer.RequestObject

inductive EnvelopeError where
  | malformed (message : String)
  | unsupportedAlgorithm (name : String)
  | keyUnwrap (message : String)
  | contentDecryption
  | encryption (message : String)
  | invalidKey (message : String)
  deriving DecidableEq, Repr

namespace EnvelopeError

def text : EnvelopeError → String
  | .malformed message => "Malformed JWE: " ++ message
  | .unsupportedAlgorithm name => "Unsupported JWE algorithm: " ++ name
  | .keyUnwrap message => "Content key unwrap failed: " ++ message
  | .contentDecryption => "Content decryption failed"
  | .encryption message => "Encryption failed: " ++ message
  | .invalidKey message => "Invalid key: " ++ message

def toServiceError (e : EnvelopeError) : ServiceError := .keyManagement e.text

end EnvelopeError

/-- Where work on an envelope stops: at a condition of its own, or in the cipher. -/
inductive Stop where
  | failed (error : EnvelopeError)
  | fault (fault : AesGcm.Fault)
  deriving DecidableEq, Repr

inductive ContentEncryption where
  | a128Gcm
  | a256Gcm
  deriving DecidableEq, Repr

namespace ContentEncryption

def name : ContentEncryption → String
  | .a128Gcm => "A128GCM"
  | .a256Gcm => "A256GCM"

def ofName (text : String) : Except EnvelopeError ContentEncryption :=
  if text = a128Gcm.name then .ok .a128Gcm
  else if text = a256Gcm.name then .ok .a256Gcm
  else .error (.unsupportedAlgorithm text)

/-- The length of a content key in bytes. -/
def keyLength : ContentEncryption → Nat
  | .a128Gcm => 16
  | .a256Gcm => 32

def encrypt (enc : ContentEncryption) (key iv extra message : Bytes) : Except AesGcm.Fault Bytes :=
  AesGcm.encrypt enc.keyLength key iv extra message

/-- The vector is looked at before the cipher is. -/
def decrypt (enc : ContentEncryption) (key iv extra sealed : Bytes) : Except Stop Bytes :=
  if iv.length ≠ Gcm.nonceLength then
    .error (.failed (.malformed "Invalid initialization vector length"))
  else (AesGcm.decrypt enc.keyLength key iv extra sealed).mapError .fault

/-- A key of the right length is never found unfit, and no vector stops the cipher. -/
theorem eq_refused_of_decrypt {enc : ContentEncryption} {key iv extra sealed : Bytes}
    {fault : AesGcm.Fault} (hkey : key.length = enc.keyLength)
    (h : enc.decrypt key iv extra sealed = .error (.fault fault)) : fault = .refused := by
  unfold decrypt at h
  split at h
  · cases h
  · rename_i hiv
    cases hanswer : AesGcm.decrypt enc.keyLength key iv extra sealed with
    | ok contents =>
      rw [hanswer] at h
      change Except.ok contents = _ at h
      cases h
    | error found =>
      rw [hanswer] at h
      change Except.error (Stop.fault found) = _ at h
      obtain rfl := Stop.fault.inj (Except.error.inj h)
      exact AesGcm.eq_refused_of_decrypt hkey (Decidable.not_not.mp hiv) hanswer

end ContentEncryption

end CredentialIssuer.RequestObject
