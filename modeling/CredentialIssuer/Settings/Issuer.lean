import CredentialIssuer.Keyed
import CredentialIssuer.RequestObject.Validation
import CredentialIssuer.Settings.Reading

/-! The settings of the issuer: its audience, how requests are judged, how long codes live, the
keys, and the clients. -/
namespace CredentialIssuer.Settings

structure RequestSettings where
  maxTokenTtl : TimeSpan
  policy : RequestObject.TtlPolicy
  clockSkew : TimeSpan
  decryptionKeyPath : Option String
  deriving DecidableEq, Repr

structure CodeSettings where
  expiry : TimeSpan
  deriving DecidableEq, Repr

structure SigningSettings where
  keyPath : Option String
  kid : Option String
  deriving DecidableEq, Repr

structure ClientSettings where
  issuer : String
  signingKey : String
  redirectUris : List String
  deriving DecidableEq, Repr

structure IssuerSettings where
  audience : String
  requests : RequestSettings
  codes : CodeSettings
  signing : SigningSettings
  clients : Keyed ClientSettings
  deriving Repr

namespace RequestSettings

/-- Twenty-five minutes, counted from now, and no skew. -/
def default : RequestSettings where
  maxTokenTtl := .ofSeconds 1500
  policy := .fromNow
  clockSkew := .zero
  decryptionKeyPath := none

end RequestSettings

/-- Ten minutes. -/
def CodeSettings.default : CodeSettings := ⟨.ofSeconds 600⟩

def SigningSettings.default : SigningSettings := ⟨none, none⟩

def IssuerSettings.default : IssuerSettings :=
  ⟨"http://localhost:8080", .default, .default, .default, .empty⟩

section Read

variable {V : Type} (R : Reading V)

private def span? (value : V) : Option TimeSpan := (R.text? value).bind TimeSpan.read?

private def policy? (value : V) : Option RequestObject.TtlPolicy :=
  match R.case? value with
  | some "from_now" => some .fromNow
  | some "from_issued_at" => some .fromIssuedAt
  | _ => none

def optionalText? : V → Option (Option String) := R.optional R.text?

def RequestSettings.read? (value : V) : Option RequestSettings := do
  let given ← R.fields? ["max_token_ttl", "ttl_policy", "clock_skew", "decryption_key_path"] value
  let d := RequestSettings.default
  some {
    maxTokenTtl := ← Reading.field given "max_token_ttl" d.maxTokenTtl (span? R)
    policy := ← Reading.field given "ttl_policy" d.policy (policy? R)
    clockSkew := ← Reading.field given "clock_skew" d.clockSkew (span? R)
    decryptionKeyPath := ← Reading.field given "decryption_key_path" d.decryptionKeyPath
      (optionalText? R) }

def CodeSettings.read? (value : V) : Option CodeSettings := do
  let given ← R.fields? ["expiry"] value
  some ⟨← Reading.field given "expiry" CodeSettings.default.expiry (span? R)⟩

def SigningSettings.read? (value : V) : Option SigningSettings := do
  let given ← R.fields? ["signing_key_path", "kid"] value
  some {
    keyPath := ← Reading.field given "signing_key_path" none (optionalText? R)
    kid := ← Reading.field given "kid" none (optionalText? R) }

def ClientSettings.read? (value : V) : Option ClientSettings := do
  let given ← R.fields? ["issuer", "signing_key", "redirect_uris"] value
  some {
    issuer := ← Reading.field given "issuer" "" R.text?
    signingKey := ← Reading.field given "signing_key" "" R.text?
    redirectUris := ← Reading.field given "redirect_uris" [] R.texts? }

def clients? (value : V) : Option (Keyed ClientSettings) := do
  let entries ← R.entries? value
  let clients ← entries.mapM fun (id, value) =>
    (ClientSettings.read? R value).map fun client => (id, client)
  some (Keyed.ofList clients)

def IssuerSettings.read? (value : V) : Option IssuerSettings := do
  let given ← R.fields? ["audience", "jar", "auth_code", "credential", "clients"] value
  let d := IssuerSettings.default
  some {
    audience := ← Reading.field given "audience" d.audience R.text?
    requests := ← Reading.field given "jar" d.requests (RequestSettings.read? R)
    codes := ← Reading.field given "auth_code" d.codes (CodeSettings.read? R)
    signing := ← Reading.field given "credential" d.signing (SigningSettings.read? R)
    clients := ← Reading.field given "clients" d.clients (clients? R) }

end Read

private def policyName : RequestObject.TtlPolicy → String
  | .fromNow => "from_now"
  | .fromIssuedAt => "from_issued_at"

def RequestSettings.toJson (s : RequestSettings) : Json :=
  .object [("max_token_ttl", .string s.maxTokenTtl.print),
    ("ttl_policy", .string (policyName s.policy)),
    ("clock_skew", .string s.clockSkew.print),
    ("decryption_key_path", .ofText? s.decryptionKeyPath)]

def ClientSettings.toJson (c : ClientSettings) : Json :=
  .object [("issuer", .string c.issuer), ("signing_key", .string c.signingKey),
    ("redirect_uris", .ofTexts c.redirectUris)]

def IssuerSettings.toJson (s : IssuerSettings) : Json :=
  .object [("audience", .string s.audience), ("jar", s.requests.toJson),
    ("auth_code", .object [("expiry", .string s.codes.expiry.print)]),
    ("credential", .object [("signing_key_path", .ofText? s.signing.keyPath),
      ("kid", .ofText? s.signing.kid)]),
    ("clients", .object (s.clients.entries.map fun (id, c) => (id, c.toJson)))]

inductive IssuerFault where
  | invalid (rule : String)
  | missing (setting : String)
  deriving DecidableEq, Repr

def IssuerFault.text : IssuerFault → String
  | .invalid rule => "Invalid configuration value: " ++ rule
  | .missing setting => "Missing required configuration: " ++ setting

/-- A day. -/
def maxCodeExpiry : TimeSpan := .ofSeconds 86400

def require (condition : Bool) (fault : IssuerFault) : Except IssuerFault Unit :=
  if condition then .ok () else .error fault

def validateClient (id : String) (c : ClientSettings) : Except IssuerFault Unit := do
  require (!c.issuer.isEmpty) (.missing ("issuer.clients." ++ id ++ ".issuer"))
  require (!c.redirectUris.isEmpty) (.missing ("issuer.clients." ++ id ++ ".redirect_uris"))

/-- The first fault, in a fixed order and then by client. -/
def IssuerSettings.validate (s : IssuerSettings) : Except IssuerFault Unit := do
  require (!s.audience.isEmpty) (.missing "issuer.audience")
  require (!s.requests.maxTokenTtl.isZero) (.invalid "issuer.jar.max_token_ttl must be > 0")
  require (!s.codes.expiry.isZero) (.invalid "issuer.auth_code.expiry must be > 0")
  require (s.codes.expiry.totalNanos ≤ maxCodeExpiry.totalNanos)
    (.invalid "issuer.auth_code.expiry must not exceed 24h")
  require (!s.clients.isEmpty) (.missing "issuer.clients must register at least one client")
  s.clients.entries.forM fun (id, c) => validateClient id c

/-- What is known of a client, with the settings that all clients share. -/
def IssuerSettings.client? (s : IssuerSettings) (id : String) : Option ClientTrust :=
  (s.clients.find? id).map fun c =>
    ⟨id, c.issuer, s.audience, c.signingKey, c.redirectUris, s.requests.maxTokenTtl⟩

def IssuerSettings.clientStore (s : IssuerSettings) : ClientStore := fun id => .ok (s.client? id)

/-- The validator for these settings. -/
def IssuerSettings.validator (s : IssuerSettings) (keys : RequestObject.KeyManagement)
    (clients : ClientStore) : RequestObject.Validator :=
  ⟨keys, clients, s.requests.policy, s.requests.clockSkew⟩

end CredentialIssuer.Settings
