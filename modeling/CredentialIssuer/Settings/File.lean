import CredentialIssuer.Json.Reader
import CredentialIssuer.Settings.Ini
import CredentialIssuer.Settings.Json5
import CredentialIssuer.Settings.Path
import CredentialIssuer.Settings.Ron
import CredentialIssuer.Settings.Toml.Reader
import CredentialIssuer.Settings.Yaml.Reader
import CredentialIssuer.Text.Segments

/-! Settings from files, in the format that the name of the file tells. -/
namespace CredentialIssuer.Settings

/-- What there is where a file is looked for. -/
inductive FileState where
  | absent
  | folder
  | document (text : String)
  deriving Repr

inductive Format where
  | toml
  | json
  | yaml
  | ini
  | json5
  | ron
  deriving DecidableEq, Repr

namespace Format

def ofExtension? : String → Option Format
  | "toml" => some .toml
  | "json" => some .json
  | "yaml" | "yml" => some .yaml
  | "ini" => some .ini
  | "json5" => some .json5
  | "ron" => some .ron
  | _ => none

/-- What follows the last dot of the last name of a path; a dot at its start does not count. -/
def extension? (path : String) : Option String :=
  let name := (path.toList.reverse.takeWhile (· ≠ '/')).reverse
  match Text.splitFirst? '.' (name.drop 1).reverse with
  | some (ending, _) => some (String.ofList ending.reverse)
  | none => none

/-- Whole numbers beyond 64 bits with a sign are taken for floating-point ones. -/
private def numberOf (n : Int) : Tree :=
  (Tree.ofInt? n).getD (.float (Extended.ofDecimal (n < 0) n.natAbs 0))

mutual

private def treeOf : Json → Tree
  | .null => .nil
  | .bool b => .bool b
  | .number (.integer n) => numberOf n
  | .number (.binary64 x) => .float (.finite x)
  | .string s => .text s
  | .array items => .list (treesOf items)
  | .object members => .table (entriesOf members)
  | .unreadable => .nil

private def treesOf : List Json → List Tree
  | [] => []
  | item :: rest => treeOf item :: treesOf rest

private def entriesOf : List (String × Json) → List (String × Tree)
  | [] => []
  | (name, value) :: rest => (name, treeOf value) :: entriesOf rest

end

/-- A document has to be a table as a whole. -/
private def rootEntries? : Tree → Option Tree.Entries
  | .table entries => some entries
  | _ => none

def read? (format : Format) (text : String) : Option Tree.Entries :=
  match format with
  | .toml => Toml.read? text
  | .json => (Json.read? text).bind fun v => (v.kept? 0).bind fun v => rootEntries? (treeOf v)
  | .yaml => Yaml.read? text
  | .ini => Ini.read? text
  | .json5 => (Json5.read? text).bind rootEntries?
  | .ron => (Ron.read? text).bind rootEntries?

end Format

private def withoutMark (text : String) : String :=
  match text.toList with
  | '\ufeff' :: rest => String.ofList rest
  | _ => text

/-- The entries of the file at a path; there are none if it is absent. -/
def FileState.entries? (file : FileState) (path : String) : Option Tree.Entries :=
  match file with
  | .absent => some []
  | .folder => none
  | .document text => do
    let format ← Format.ofExtension? (← Format.extension? path)
    format.read? (withoutMark text)

/-- Names at the top of a file may be paths. -/
def overlayFile (file entries : Tree.Entries) : Tree.Entries :=
  file.foldl (fun entries (name, value) => (Path.ofText name).set value entries) entries

end CredentialIssuer.Settings
