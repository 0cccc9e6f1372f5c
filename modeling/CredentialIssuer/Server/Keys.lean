import CredentialIssuer.Credential.Signer
import CredentialIssuer.RequestObject.Decryption
import CredentialIssuer.Settings.Load

/-! The keys that a server starts with. -/
namespace CredentialIssuer.Server

inductive StartError where
  | keyFile (path reason : String)
  | decryptionKey (error : RequestObject.EnvelopeError)
  | signingKey (error : TokenError)
  deriving DecidableEq, Repr

def StartError.text : StartError → String
  | .keyFile path reason => "failed to read key file " ++ path ++ ": " ++ reason
  | .decryptionKey error => "invalid request decryption key: " ++ error.text
  | .signingKey error => "invalid credential signing key: " ++ error.text

/-- A key that no file is configured for is generated anew at every start. -/
structure Keys where
  decryption : Option Rsa.PrivateKey
  signer : Option CredentialSigner
  deriving Repr

private def keyText (path : String) : Settings.FileState → Except StartError String
  | .document text => .ok text
  | .absent => .error (.keyFile path "No such file or directory (os error 2)")
  | .folder => .error (.keyFile path "Is a directory (os error 21)")

private def readDecryptionKey (path : String) (file : Settings.FileState) :
    Except StartError Rsa.PrivateKey := do
  match RequestObject.readPrivateKey (← keyText path file) with
  | .ok key => .ok key
  | .error error => .error (.decryptionKey error)

private def readSigner (kid : Option String) (path : String) (file : Settings.FileState) :
    Except StartError CredentialSigner := do
  match CredentialSigner.ofPem (← keyText path file) kid with
  | .ok signer => .ok signer
  | .error error => .error (.signingKey error)

private def configured {m : Type → Type} [Monad m] {α : Type}
    (look : String → m Settings.FileState)
    (decode : String → Settings.FileState → Except StartError α) :
    Option String → m (Except StartError (Option α))
  | none => return .ok none
  | some path => return (decode path (← look path)).map some

/-- The key for requests comes first; without it the other is not looked at. -/
def Keys.load {m : Type → Type} [Monad m] (look : String → m Settings.FileState)
    (settings : Settings.IssuerSettings) : m (Except StartError Keys) := do
  match ← configured look readDecryptionKey settings.requests.decryptionKeyPath with
  | .error e => return .error e
  | .ok decryption =>
    match ← configured look (readSigner settings.signing.kid) settings.signing.keyPath with
    | .error e => return .error e
    | .ok signer => return .ok ⟨decryption, signer⟩

end CredentialIssuer.Server
