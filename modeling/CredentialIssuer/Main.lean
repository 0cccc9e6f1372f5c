import CredentialIssuer.CommandLine
import CredentialIssuer.Text.Utf8

/-! The program: it checks settings and keys, and tells where a server with them listens. -/
open CredentialIssuer

private def lookAt (path : String) : IO Settings.FileState := do
  try
    return .document (← IO.FS.readFile path)
  catch
    | .noFileOrDirectory .. => return .absent
    | _ => return .folder

private def assignmentOf? (entry : Bytes) : Option (String × String) :=
  let name := entry.takeWhile (· ≠ 61)
  let value := (entry.dropWhile (· ≠ 61)).drop 1
  return (← Utf8.decode? name, ← Utf8.decode? value)

private def entries : List UInt8 → Bytes → List Bytes
  | [], [] => []
  | entry, [] => [entry.reverse]
  | entry, 0 :: rest => entry.reverse :: entries [] rest
  | entry, b :: rest => entries (b :: entry) rest

/-- The variables of this process, as the system lists them. -/
private def environment : IO Settings.Environment.Bindings := do
  let listing ← IO.FS.readBinFile "/proc/self/environ"
  return (entries [] listing.data.toList).filterMap assignmentOf?

def main (arguments : List String) : IO UInt32 := do
  let report ← CommandLine.run lookAt arguments (← environment)
  for line in report.errors do
    IO.eprintln line
  match report.ending with
  | .exit code => return UInt32.ofNat code
  | .serving address =>
    IO.println ("ready to listen on " ++ address)
    return 0
