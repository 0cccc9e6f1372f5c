import CredentialIssuer.Jose.Jwk

/-! The headers of signed tokens. -/
namespace CredentialIssuer

inductive Algorithm where
  | hs256 | hs384 | hs512
  | es256 | es384
  | rs256 | rs384 | rs512
  | ps256 | ps384 | ps512
  | edDsa
  deriving DecidableEq, Repr

namespace Algorithm

def name : Algorithm → String
  | .hs256 => "HS256"
  | .hs384 => "HS384"
  | .hs512 => "HS512"
  | .es256 => "ES256"
  | .es384 => "ES384"
  | .rs256 => "RS256"
  | .rs384 => "RS384"
  | .rs512 => "RS512"
  | .ps256 => "PS256"
  | .ps384 => "PS384"
  | .ps512 => "PS512"
  | .edDsa => "EdDSA"

def all : List Algorithm :=
  [.hs256, .hs384, .hs512, .es256, .es384, .rs256, .rs384, .rs512, .ps256, .ps384, .ps512, .edDsa]

def ofName? (text : String) : Option Algorithm := all.find? fun a => a.name == text

end Algorithm

namespace Jwt

structure Header where
  algorithm : Algorithm
  /-- All members but the algorithm, sorted by name. -/
  parameters : Json.Members
  deriving Repr

namespace Header

def algorithmOf? (value : Json) : Option Algorithm := value.asCase?.bind Algorithm.ofName?

/-- The members with a meaning of their own, which may also be null. -/
def known : List (String × (Json → Option Json)) :=
  [("typ", Jwk.text?), ("cty", Jwk.text?), ("jku", Jwk.text?),
    ("jwk", fun value => (Jwk.ofJson? value).map fun key => key.toJson.sorted),
    ("kid", Jwk.text?), ("x5u", Jwk.text?), ("x5c", Jwk.texts?), ("x5t", Jwk.text?),
    ("x5t#S256", Jwk.text?), ("crit", Jwk.texts?), ("enc", Jwk.text?), ("zip", Jwk.text?),
    ("url", Jwk.text?), ("nonce", Jwk.text?)]

def names : List String := "alg" :: known.map (·.1)

def extra? (m : String × Json) : Option (String × Json) :=
  (Jwk.text? m.2).map (m.1, ·)

/-- Members without a meaning of their own hold texts. -/
def ofJson? (value : Json) : Option Header := do
  let members ← value.asMembers?
  let r ← Json.namedRecord? names members
  let algorithm ← r.required "alg" algorithmOf?
  let parameters ← Jwk.collect? known r
  let extras ← (members.filter fun m => !names.contains m.1).mapM extra?
  match (Json.object (parameters ++ extras)).sorted with
  | .object parameters => some ⟨algorithm, parameters⟩
  | _ => none

def read? (bytes : Bytes) : Option Header := do
  let value ← Json.readBytes? bytes
  if value.isKeepable Json.maxLevels then ofJson? value else none

def toJson (h : Header) : Json :=
  .object (Json.Members.insertNew "alg" (.string h.algorithm.name) h.parameters)

end Header

end Jwt

end CredentialIssuer
