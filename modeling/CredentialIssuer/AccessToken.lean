import CredentialIssuer.Error
import CredentialIssuer.Text.Segments

/-! Bearer tokens and the resources they give access to. -/
namespace CredentialIssuer.AccessToken

def invalidRequest : ServiceError := .invalidRequest "Invalid request"

def accessDenied : ServiceError :=
  .accessDenied ("Access denied by resource owner or authorization server - "
    ++ "The supplied access token was not found in the database")

/-- The scheme in lower case. -/
def scheme : List Char := "bearer".toList

def bare? (token : List Char) : Option String :=
  if token.isEmpty || token.any Text.isBlank then none else some (String.ofList token)

/-- The scheme ends at the first space and may be in any case; blanks around the token are
dropped, and there are none inside. -/
def parse (authorization : String) : Except ServiceError String :=
  match Text.splitFirst? ' ' authorization.toList with
  | none => .error invalidRequest
  | some (found, rest) =>
    if found.map Char.toLower = scheme then
      match bare? (Text.trim rest) with
      | some token => .ok token
      | none => .error invalidRequest
    else .error invalidRequest

/-- A store of tokens is a function to the resources behind them. -/
abbrev Store := String → Except ServiceError (Option String)

/-- A result together with the tokens that were looked up on the way. -/
structure Resolution where
  lookups : List String
  result : Except ServiceError String

def found (answer : Except ServiceError (Option String)) : Except ServiceError String :=
  match answer with
  | .ok (some resourceId) => .ok resourceId
  | .ok none => .error accessDenied
  | .error e => .error e

/-- Only a bearer token is put to the store, where asking may have effects. -/
def resolveWith {m : Type → Type} [Monad m] (ask : String → m (Except ServiceError (Option String)))
    (authorization : Option String) : m (Except ServiceError String) :=
  match authorization with
  | none => pure (.error .missingToken)
  | some text =>
    match parse text with
    | .error e => pure (.error e)
    | .ok token => do return found (← ask token)

/-- A store that keeps a list of the tokens it is asked for. -/
def recorded (store : Store) (token : String) :
    StateM (List String) (Except ServiceError (Option String)) := do
  modify (· ++ [token])
  return store token

/-- The resource behind an Authorization header. -/
def resolve (store : Store) (authorization : Option String) : Resolution :=
  let (result, lookups) := (resolveWith (recorded store) authorization).run []
  ⟨lookups, result⟩

/-- Without a header no token is looked up. -/
theorem resolve_none (store : Store) : resolve store none = ⟨[], .error .missingToken⟩ := rfl

/-- A header without a token costs no lookup. -/
theorem resolve_of_refused {store : Store} {text : String} {e : ServiceError}
    (h : parse text = .error e) : resolve store (some text) = ⟨[], .error e⟩ := by
  rw [resolve, resolveWith, h]
  rfl

/-- A token is looked up once, and the store decides. -/
theorem resolve_of_parsed {store : Store} {text token : String} (h : parse text = .ok token) :
    resolve store (some text) = ⟨[token], found (store token)⟩ := by
  rw [resolve, resolveWith, h]
  rfl

end CredentialIssuer.AccessToken
