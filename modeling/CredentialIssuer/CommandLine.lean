import CredentialIssuer.Server.Keys
import CredentialIssuer.Settings.DotEnv

/-! The command line: finding the settings, loading them, and starting the server. -/
namespace CredentialIssuer.CommandLine

/-- How a run ends before requests are served, or where they are served. -/
inductive Ending where
  | exit (code : Nat)
  | serving (address : String)
  deriving DecidableEq, Repr

structure Report where
  ending : Ending
  /-- The lines written to standard error. -/
  errors : List String
  deriving DecidableEq, Repr

/-- The value after the first `--config` that has one. -/
def configArgument? : List String → Option String
  | "--config" :: path :: _ => some path
  | _ :: rest => configArgument? rest
  | [] => none

private def configVariable? (bindings : Settings.Environment.Bindings) : Option String :=
  (Settings.Environment.get? bindings "PASSPORT_CRI_CONFIG").filter fun path => !path.isEmpty

/-- The argument wins over the variable, and the variable over the default. -/
def configPath (arguments : List String) (bindings : Settings.Environment.Bindings) : String :=
  ((configArgument? arguments).or (configVariable? bindings)).getD Settings.defaultFile

/-- The file of variables in the working directory. -/
def dotEnvFile : String := ".env"

private def withDotEnv (file : Settings.FileState) (bindings : Settings.Environment.Bindings) :
    Settings.Environment.Bindings × List String :=
  match file with
  | .document text =>
    let (bindings, whole) := Settings.DotEnv.apply text bindings
    (bindings, if whole then [] else ["Warning: Failed to load .env file: malformed line"])
  | _ => (bindings, [])

/-- What a run does with its arguments, its environment and the files that it looks at. -/
def run {m : Type → Type} [Monad m] (look : String → m Settings.FileState)
    (arguments : List String) (bindings : Settings.Environment.Bindings) : m Report := do
  let (bindings, warnings) := withDotEnv (← look dotEnvFile) bindings
  let path := configPath arguments bindings
  match Settings.load (← look path) path bindings with
  | .error e => return ⟨.exit 2, warnings ++ ["Configuration error: " ++ e.text]⟩
  | .ok settings =>
    match ← Server.Keys.load look settings.issuer with
    | .error e => return ⟨.exit 2, warnings ++ ["Server initialization failed: " ++ e.text]⟩
    | .ok _ => return ⟨.serving settings.address, warnings⟩

end CredentialIssuer.CommandLine
