import CredentialIssuer.RequestObject.Failure
import CredentialIssuer.Url.Parser

/-! Answers that are delivered by redirect: pairs added to the query of the redirect target. -/
namespace CredentialIssuer.Redirect

def optionalPair (name : String) : Option String → List (String × String)
  | some value => [(name, value)]
  | none => []

/-- The target without its fragment and with the pairs after its query. -/
def target (redirectUri : String) (pairs : List (String × String)) :
    Except Url.ParseError String := do
  let url ← Url.parse redirectUri
  return (pairs.foldl (fun u (name, value) => u.appendPair name value) url.withoutFragment).print

def successPairs (code : String) (state : Option String) : List (String × String) :=
  ("code", code) :: optionalPair "state" state

def errorPairs (code : RequestObject.ErrorCode) (description state : Option String) :
    List (String × String) :=
  ("error", code.text) :: (optionalPair "error_description" description
    ++ optionalPair "state" state)

/-- The target that hands over an authorization code. -/
def success (redirectUri code : String) (state : Option String) : Except Url.ParseError String :=
  target redirectUri (successPairs code state)

/-- The target that tells of an error. -/
def error (redirectUri : String) (code : RequestObject.ErrorCode)
    (description state : Option String) : Except Url.ParseError String :=
  target redirectUri (errorPairs code description state)

end CredentialIssuer.Redirect
