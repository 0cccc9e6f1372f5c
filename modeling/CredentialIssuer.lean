import CredentialIssuer.AccessToken
import CredentialIssuer.Audit
import CredentialIssuer.AuthorizationCode
import CredentialIssuer.CommandLine
import CredentialIssuer.Credential.Assembly
import CredentialIssuer.Credential.Basic
import CredentialIssuer.Credential.Issuance
import CredentialIssuer.Credential.Signer
import CredentialIssuer.Crypto.Aes
import CredentialIssuer.Crypto.AesGcm
import CredentialIssuer.Crypto.Der
import CredentialIssuer.Crypto.Gcm
import CredentialIssuer.Crypto.Oaep
import CredentialIssuer.Crypto.P256
import CredentialIssuer.Crypto.Pem
import CredentialIssuer.Crypto.Rsa
import CredentialIssuer.Crypto.Sha256
import CredentialIssuer.Error
import CredentialIssuer.Http.Authorization
import CredentialIssuer.Http.ErrorResponse
import CredentialIssuer.Http.Issue
import CredentialIssuer.Http.Message
import CredentialIssuer.Http.Router
import CredentialIssuer.IdentityCheck
import CredentialIssuer.Jose.Fault
import CredentialIssuer.Jose.Header
import CredentialIssuer.Jose.Jwk
import CredentialIssuer.Jose.Jwt
import CredentialIssuer.Json.Basic
import CredentialIssuer.Json.Numeral
import CredentialIssuer.Json.Printer
import CredentialIssuer.Json.Reader
import CredentialIssuer.Json.Record
import CredentialIssuer.Json.Token
import CredentialIssuer.Keyed
import CredentialIssuer.LogContext
import CredentialIssuer.Main
import CredentialIssuer.Number.Binary64
import CredentialIssuer.Number.Extended
import CredentialIssuer.Number.Shortest
import CredentialIssuer.Proofs.AccessToken
import CredentialIssuer.Proofs.AuthorizationCode.Expiry
import CredentialIssuer.Proofs.AuthorizationCode.History
import CredentialIssuer.Proofs.Credential.Assembly
import CredentialIssuer.Proofs.Credential.Basic
import CredentialIssuer.Proofs.Credential.Signer
import CredentialIssuer.Proofs.Credential.Subject
import CredentialIssuer.Proofs.Crypto.Aes
import CredentialIssuer.Proofs.Crypto.AesGcm
import CredentialIssuer.Proofs.Crypto.Gcm
import CredentialIssuer.Proofs.Crypto.Oaep
import CredentialIssuer.Proofs.Crypto.Rsa
import CredentialIssuer.Proofs.Crypto.RsaSignature
import CredentialIssuer.Proofs.Http.Challenge
import CredentialIssuer.Proofs.Http.Concealment
import CredentialIssuer.Proofs.Http.Parameters
import CredentialIssuer.Proofs.Http.Redirection
import CredentialIssuer.Proofs.IdentityCheck
import CredentialIssuer.Proofs.IdentityCheck.Revision
import CredentialIssuer.Proofs.Jose.Jwt
import CredentialIssuer.Proofs.Json.Kept
import CredentialIssuer.Proofs.Json.Members
import CredentialIssuer.Proofs.Json.Numeral
import CredentialIssuer.Proofs.Json.Reader
import CredentialIssuer.Proofs.Json.Revision
import CredentialIssuer.Proofs.Json.Sorted
import CredentialIssuer.Proofs.Json.Token
import CredentialIssuer.Proofs.Keyed
import CredentialIssuer.Proofs.Number.Extended
import CredentialIssuer.Proofs.Redirect
import CredentialIssuer.Proofs.RequestObject.Acceptance
import CredentialIssuer.Proofs.RequestObject.Claims
import CredentialIssuer.Proofs.RequestObject.Decryption
import CredentialIssuer.Proofs.RequestObject.Encryption
import CredentialIssuer.Proofs.RequestObject.Envelope
import CredentialIssuer.Proofs.RequestObject.EnvelopeGrammar
import CredentialIssuer.Proofs.RequestObject.FirstFailure
import CredentialIssuer.Proofs.RequestObject.Signature
import CredentialIssuer.Proofs.RequestObject.TimeBounds
import CredentialIssuer.Proofs.RequestObject.UniformFailure
import CredentialIssuer.Proofs.RequestObject.Unsigned
import CredentialIssuer.Proofs.Result
import CredentialIssuer.Proofs.Server.Authorizations
import CredentialIssuer.Proofs.Server.Issuances
import CredentialIssuer.Proofs.Settings.Environment
import CredentialIssuer.Proofs.Settings.Issuer
import CredentialIssuer.Proofs.Settings.Lifetime
import CredentialIssuer.Proofs.Settings.Load
import CredentialIssuer.Proofs.Settings.Path
import CredentialIssuer.Proofs.Settings.Reading
import CredentialIssuer.Proofs.Text.Base64Url
import CredentialIssuer.Proofs.Text.Blank
import CredentialIssuer.Proofs.Text.Bytes
import CredentialIssuer.Proofs.Text.Form
import CredentialIssuer.Proofs.Text.Percent
import CredentialIssuer.Proofs.Text.Segments
import CredentialIssuer.Proofs.Text.Utf8
import CredentialIssuer.Proofs.Time.Date
import CredentialIssuer.Proofs.Url.Alphabet
import CredentialIssuer.Proofs.Url.Printable
import CredentialIssuer.Proofs.Uuid
import CredentialIssuer.Redirect
import CredentialIssuer.RequestObject.Checks
import CredentialIssuer.RequestObject.Claims
import CredentialIssuer.RequestObject.ContentEncryption
import CredentialIssuer.RequestObject.Decryption
import CredentialIssuer.RequestObject.Encryption
import CredentialIssuer.RequestObject.Envelope
import CredentialIssuer.RequestObject.Failure
import CredentialIssuer.RequestObject.Outcome
import CredentialIssuer.RequestObject.Validation
import CredentialIssuer.Server.Keys
import CredentialIssuer.Server.Memory
import CredentialIssuer.Settings.Application
import CredentialIssuer.Settings.DotEnv
import CredentialIssuer.Settings.Environment
import CredentialIssuer.Settings.File
import CredentialIssuer.Settings.Ini
import CredentialIssuer.Settings.Issuer
import CredentialIssuer.Settings.Json5
import CredentialIssuer.Settings.Load
import CredentialIssuer.Settings.Path
import CredentialIssuer.Settings.Reading
import CredentialIssuer.Settings.Ron
import CredentialIssuer.Settings.Toml.Document
import CredentialIssuer.Settings.Toml.Reader
import CredentialIssuer.Settings.Toml.Scalar
import CredentialIssuer.Settings.Tree
import CredentialIssuer.Settings.Yaml.Node
import CredentialIssuer.Settings.Yaml.Reader
import CredentialIssuer.Settings.Yaml.Source
import CredentialIssuer.Settings.Yaml.Text
import CredentialIssuer.Text.Base64Url
import CredentialIssuer.Text.Bytes
import CredentialIssuer.Text.Digits
import CredentialIssuer.Text.Percent
import CredentialIssuer.Text.Segments
import CredentialIssuer.Text.Utf8
import CredentialIssuer.Time.Date
import CredentialIssuer.Time.TimeSpan
import CredentialIssuer.Time.Timestamp
import CredentialIssuer.Unicode.Composition
import CredentialIssuer.Unicode.Direction
import CredentialIssuer.Unicode.Joining
import CredentialIssuer.Unicode.Letter
import CredentialIssuer.Unicode.Mark
import CredentialIssuer.Unicode.Runs
import CredentialIssuer.Url.Basic
import CredentialIssuer.Url.DomainCharacter
import CredentialIssuer.Url.Host
import CredentialIssuer.Url.Ip
import CredentialIssuer.Url.Label
import CredentialIssuer.Url.Parser
import CredentialIssuer.Url.Punycode
import CredentialIssuer.Uuid
