import CredentialIssuer.Settings.Issuer
import CredentialIssuer.Url.Ip

/-! The settings of the server around the issuer. -/
namespace CredentialIssuer.Settings

structure AppSettings where
  host : String
  port : UInt16
  logLevel : String
  issuer : IssuerSettings
  deriving Repr

namespace AppSettings

def default : AppSettings := ⟨"0.0.0.0", 8080, "info", .default⟩

def server? {V : Type} (R : Reading V) (value : V) : Option (String × UInt16) := do
  let given ← R.fields? ["host", "port"] value
  some (← Reading.field given "host" default.host R.text?,
    ← Reading.field given "port" default.port R.port?)

def logging? {V : Type} (R : Reading V) (value : V) : Option String := do
  let given ← R.fields? ["level"] value
  Reading.field given "level" default.logLevel R.text?

def read? {V : Type} (R : Reading V) (value : V) : Option AppSettings := do
  let given ← R.fields? ["server", "logging", "issuer"] value
  let (host, port) ← Reading.field given "server" (default.host, default.port) (server? R)
  let level ← Reading.field given "logging" default.logLevel (logging? R)
  let issuer ← Reading.field given "issuer" default.issuer (IssuerSettings.read? R)
  some ⟨host, port, level, issuer⟩

def toJson (s : AppSettings) : Json :=
  .object [("server", .object [("host", .string s.host), ("port", .ofNat s.port.toNat)]),
    ("logging", .object [("level", .string s.logLevel)]), ("issuer", s.issuer.toJson)]

def logLevels : List String := ["trace", "debug", "info", "warn", "error", "off"]

inductive Fault where
  | zeroPort
  | unknownLogLevel
  | issuer (fault : IssuerFault)
  deriving DecidableEq, Repr

private def quotedList (items : List String) : String :=
  "[" ++ String.intercalate ", " (items.map fun item => "\"" ++ item ++ "\"") ++ "]"

def Fault.text : Fault → String
  | .zeroPort => "server.port must be > 0"
  | .unknownLogLevel => "logging.level must be one of " ++ quotedList logLevels
  | .issuer fault => "issuer config error: " ++ fault.text

def validate (s : AppSettings) : Except Fault Unit :=
  if s.port = 0 then .error .zeroPort
  else if !logLevels.contains s.logLevel.toLower then .error .unknownLogLevel
  else
    match s.issuer.validate with
    | .ok () => .ok ()
    | .error fault => .error (.issuer fault)

/-- A host that is no address stands for every address of the machine. -/
def address (s : AppSettings) : String :=
  let host := s.host.toList
  let port := ':' :: (toString s.port.toNat).toList
  match Ip.v4? host, Ip.v6? host with
  | some octets, _ => String.ofList (Ip.v4Chars octets ++ port)
  | none, some groups => String.ofList ('[' :: Ip.v6MappedChars groups ++ ']' :: port)
  | none, none => String.ofList ("0.0.0.0".toList ++ port)

end AppSettings

end CredentialIssuer.Settings
