import CredentialIssuer.Settings.Application
import CredentialIssuer.Settings.Environment
import CredentialIssuer.Settings.File

/-! Loading the settings: a file, and the environment over it. -/
namespace CredentialIssuer.Settings

inductive LoadError where
  /-- The file cannot be read as settings. -/
  | unreadableFile
  /-- A setting is not of the kind that is wanted. -/
  | unfitSetting
  | invalid (fault : AppSettings.Fault)
  deriving DecidableEq, Repr

def LoadError.text : LoadError → String
  | .unreadableFile => "config build error: the file does not hold settings"
  | .unfitSetting => "config deserialize error: a setting is of another kind"
  | .invalid fault => fault.text

/-- The file that is read when none is named. -/
def defaultFile : String := "passport-cri.toml"

/-- The file at a path and the environment, as one tree. -/
def merged? (file : FileState) (path : String) (bindings : Environment.Bindings) :
    Option Tree.Entries :=
  (file.entries? path).map fun entries =>
    Environment.overlay bindings (overlayFile entries [])

def load (file : FileState) (path : String) (bindings : Environment.Bindings) :
    Except LoadError AppSettings :=
  match merged? file path bindings with
  | none => .error .unreadableFile
  | some entries =>
    match AppSettings.read? Tree.reading (.table entries) with
    | none => .error .unfitSetting
    | some settings =>
      match settings.validate with
      | .ok () => .ok settings
      | .error fault => .error (.invalid fault)

end CredentialIssuer.Settings
