import CredentialIssuer.Url.Host

/-! Absolute URLs in their parts, and the text they are written as. -/
namespace CredentialIssuer

namespace Url

structure Authority where
  /-- Name and password, already escaped, with the sign that ends them. -/
  userinfo : List Char
  host : Option Host
  port : Option Nat
  deriving DecidableEq, Repr

inductive Path where
  /-- Text without a structure. -/
  | unstructured (text : List Char)
  | segments (items : List (List Char))
  deriving DecidableEq, Repr

end Url

structure Url where
  scheme : List Char
  authority : Option Url.Authority
  path : Url.Path
  query : Option (List Char)
  fragment : Option (List Char)
  deriving DecidableEq, Repr

namespace Url

def Authority.chars (a : Authority) : List Char :=
  a.userinfo ++ (match a.host with | some h => h.chars | none => [])
    ++ (match a.port with | some p => ':' :: (toString p).toList | none => [])

def Path.chars : Path → List Char
  | .unstructured text => text
  | .segments items => items.flatMap ('/' :: ·)

/-- Without an authority, a path that starts with two slashes gets a dot in front, lest it be
read as one. -/
def guarded (path : List Char) : List Char :=
  match path with
  | '/' :: '/' :: _ => '/' :: '.' :: path
  | _ => path

/-- Everything before query and fragment. -/
def base (u : Url) : List Char :=
  u.scheme ++ ':' :: match u.authority with
    | some a => '/' :: '/' :: a.chars ++ u.path.chars
    | none => guarded u.path.chars

def chars (u : Url) : List Char :=
  u.base ++ (match u.query with | some q => '?' :: q | none => [])
    ++ (match u.fragment with | some f => '#' :: f | none => [])

def print (u : Url) : String := String.ofList u.chars

/-- Spaces at the end of an unstructured path do not stay without a query or fragment after it. -/
def trimmedPath (u : Url) : Path :=
  match u.path, u.query with
  | .unstructured text, none => .unstructured (text.reverse.dropWhile (· = ' ')).reverse
  | path, _ => path

def withoutFragment (u : Url) : Url := { u with fragment := none, path := u.trimmedPath }

/-- Adds a pair at the end of the query. -/
def appendPair (u : Url) (name value : String) : Url :=
  let query := match u.query with
    | none | some [] => Form.pair name value
    | some q => q ++ '&' :: Form.pair name value
  { u with query := some query }

end Url

end CredentialIssuer
