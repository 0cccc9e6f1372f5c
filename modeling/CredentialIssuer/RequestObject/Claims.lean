import CredentialIssuer.Json.Basic
import CredentialIssuer.Json.Record
import CredentialIssuer.RequestObject.Failure

/-! The claims of an authorization request. -/
namespace CredentialIssuer.RequestObject

/-- One audience alone is not the same as a list of one. -/
inductive Audience where
  | one (value : String)
  | many (values : List String)
  deriving DecidableEq, Repr

namespace Audience

def values : Audience → List String
  | .one value => [value]
  | .many values => values

def names (a : Audience) (value : String) : Bool := a.values.contains value

def ofJson? : Json → Option Audience
  | .string value => some (.one value)
  | .array items => (items.mapM Json.asText?).map .many
  | _ => none

def toJson : Audience → Json
  | .one value => .string value
  | .many values => .array (values.map .string)

end Audience

structure Claims where
  iss : Option String
  sub : Option String
  aud : Option Audience
  exp : Option Int64
  nbf : Option Int64
  iat : Option Int64
  responseType : Option String
  clientId : Option String
  redirectUri : Option String
  state : Option String
  /-- All other members, as they came. -/
  additional : Json.Members
  deriving Repr

namespace Claims

/-- The names of the claims with a meaning of their own. -/
def registered : List String :=
  ["iss", "sub", "aud", "exp", "nbf", "iat", "response_type", "client_id", "redirect_uri", "state"]

def seconds? (value : Json) : Option Int64 := value.asInt64?.map Int64.ofInt

/-- Registered claims may be absent or null. -/
def ofMembers? (payload : Json.Members) : Option Claims := do
  let r ← Json.namedRecord? registered payload
  some {
    iss := ← r.lenient "iss" Json.asText?
    sub := ← r.lenient "sub" Json.asText?
    aud := ← r.lenient "aud" Audience.ofJson?
    exp := ← r.lenient "exp" seconds?
    nbf := ← r.lenient "nbf" seconds?
    iat := ← r.lenient "iat" seconds?
    responseType := ← r.lenient "response_type" Json.asText?
    clientId := ← r.lenient "client_id" Json.asText?
    redirectUri := ← r.lenient "redirect_uri" Json.asText?
    state := ← r.lenient "state" Json.asText?
    additional := payload.filter fun m => !registered.contains m.1 }

/-- The claims in the payload of a signed token. -/
def ofPayload (payload : Json.Members) : Except FatalFailure Claims :=
  match ofMembers? payload with
  | some claims => .ok claims
  | none => .error .redirectUnreadable

def secondsJson (n : Int64) : Json := .ofInt n.toInt

/-- Absent claims are left out. -/
def members (c : Claims) : Json.Members :=
  Json.member? "iss" .string c.iss ++ Json.member? "sub" .string c.sub
    ++ Json.member? "aud" Audience.toJson c.aud ++ Json.member? "exp" secondsJson c.exp
    ++ Json.member? "nbf" secondsJson c.nbf ++ Json.member? "iat" secondsJson c.iat
    ++ Json.member? "response_type" .string c.responseType
    ++ Json.member? "client_id" .string c.clientId
    ++ Json.member? "redirect_uri" .string c.redirectUri ++ Json.member? "state" .string c.state
    ++ c.additional

end Claims

end CredentialIssuer.RequestObject
