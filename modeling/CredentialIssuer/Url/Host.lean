import CredentialIssuer.Text.Digits
import CredentialIssuer.Text.Percent
import CredentialIssuer.Url.Ip
import CredentialIssuer.Url.Label

/-! Hosts of URLs. -/
namespace CredentialIssuer.Url

/-- Why a text is no URL. -/
inductive ParseError where
  | relativeWithoutBase
  | emptyHost
  | invalidPort
  | invalidIpv4
  | invalidIpv6
  | invalidDomainName
  | invalidDomainCharacter
  deriving DecidableEq, Repr

def ParseError.message : ParseError → String
  | .relativeWithoutBase => "relative URL without a base"
  | .emptyHost => "empty host"
  | .invalidPort => "invalid port number"
  | .invalidIpv4 => "invalid IPv4 address"
  | .invalidIpv6 => "invalid IPv6 address"
  | .invalidDomainName => "invalid international domain name"
  | .invalidDomainCharacter => "invalid domain character"

inductive Host where
  /-- A name, in the form it is written in. -/
  | name (text : List Char)
  | v4 (octets : List Nat)
  | v6 (groups : List Nat)
  deriving DecidableEq, Repr

namespace Host

def chars : Host → List Char
  | .name text => text
  | .v4 octets => Ip.v4Chars octets
  | .v6 groups => '[' :: Ip.v6Chars groups ++ [']']

def isForbiddenInDomain (c : Char) : Bool :=
  c.toNat ≤ 32 || c.toNat == 127 || "%#/:<>?@[\\]^|".toList.contains c

/-- A name whose characters are prepared and composed, as far as ASCII needs any of that. -/
def prepared? (name : List Char) : Option (List Char) :=
  if name.all Punycode.isAscii then some (name.map Char.toLower)
  else (name.mapM imageOf?).map fun images => Unicode.composed images.flatten

/-- Percent escapes are undone, the name is prepared, and its labels are written in ASCII. -/
def domain? (cs : List Char) : Option (List Char) := do
  let text ← Utf8.decode? (Percent.decode (Utf8.encode (String.ofList cs)))
  let name ← prepared? text.toList
  if name.any isForbiddenInDomain then none
  let labels ← (Text.segments '.' name).mapM Label.ofPrepared?
  if Label.areAllowed labels then some (Text.join '.' (labels.map (·.written))) else none

/-- A number in base sixteen after `0x`, which may stand for zero, eight after `0`, else ten. -/
def looseNumber? : List Char → Option Nat
  | '0' :: 'x' :: rest => if rest.isEmpty then some 0 else Text.naturalIn? 16 rest
  | '0' :: rest => if rest.isEmpty then some 0 else Text.naturalIn? 8 rest
  | cs => Text.naturalIn? 10 cs

def dropFinalEmpty (parts : List (List Char)) : List (List Char) :=
  if parts.getLast? = some [] then parts.dropLast else parts

/-- The last label decides whether a name must be an address. -/
def endsInNumber (name : List Char) : Bool :=
  let parts := Text.segments '.' name
  if parts.length = 1 ∧ parts = [[]] then false
  else
    match (dropFinalEmpty parts).getLast? with
    | some last => (!last.isEmpty && last.all Text.isDigit) || (looseNumber? last).isSome
    | none => false

/-- Up to four numbers, the last of which fills the places that are left. -/
def looseV4? (name : List Char) : Option (List Nat) := do
  let parts := dropFinalEmpty (Text.segments '.' name)
  if 4 < parts.length then none
  let numbers ← parts.mapM looseNumber?
  let last ← numbers.getLast?
  let leading := numbers.dropLast
  let left := 4 - leading.length
  if leading.all (· ≤ 255) && last < 256 ^ left then
    some (leading ++ ((List.range left).map fun i => last / 256 ^ (left - 1 - i) % 256))
  else none

def bracketed? (cs : List Char) : Except ParseError Host :=
  if cs.getLast? = some ']' then
    match Ip.v6? (cs.drop 1).dropLast with
    | some groups => .ok (.v6 groups)
    | none => .error .invalidIpv6
  else .error .invalidIpv6

/-- A host of a scheme that knows domains. -/
def ofDomain (cs : List Char) : Except ParseError Host :=
  if cs.head? = some '[' then bracketed? cs
  else
    match domain? cs with
    | none => .error .invalidDomainName
    | some text =>
      if text.isEmpty then .error .emptyHost
      else if endsInNumber text then
        match looseV4? text with
        | some octets => .ok (.v4 octets)
        | none => .error .invalidIpv4
      else .ok (.name text)

def isForbiddenInHost (c : Char) : Bool :=
  c == '\x00' || "\t\n\r #/:<>?@[\\]^|".toList.contains c

def isControl (c : Char) : Bool := c < ' ' || c == '\x7f'

/-- A host of any other scheme. -/
def ofOpaque (cs : List Char) : Except ParseError Host :=
  if cs.head? = some '[' then bracketed? cs
  else if cs.any isForbiddenInHost then .error .invalidDomainCharacter
  else .ok (.name (Percent.encode isControl cs))

end Host

end CredentialIssuer.Url
