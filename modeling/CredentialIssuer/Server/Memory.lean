import CredentialIssuer.Http.Router
import CredentialIssuer.Settings.Issuer

/-! A service over stores in memory, which are empty at the start, and a server in use: its stores,
and the trail of the events that its answers bring about. -/
namespace CredentialIssuer.Server

structure Memory where
  codes : AuthorizationCode.Store
  tokens : Keyed String
  checks : Keyed IdentityCheck
  deriving Repr

namespace Memory

def empty : Memory := ⟨.empty, .empty, .empty⟩

def addToken (m : Memory) (token resourceId : String) : Memory :=
  { m with tokens := m.tokens.insert token resourceId }

/-- Of the checks of one resource the last stays. -/
def addCheck (m : Memory) (check : IdentityCheck) : Memory :=
  { m with checks := m.checks.insert check.resourceId check }

def tokenStore (m : Memory) : AccessToken.Store := fun token => .ok (m.tokens.find? token)

def checkStore (m : Memory) : IdentityCheck.Store := fun id => .ok (m.checks.find? id)

def credentialService (m : Memory) (signer : CredentialSigner) : CredentialService :=
  ⟨m.tokenStore, m.checkStore, signer⟩

/-- The endpoints over these stores, of which the one for codes takes every item. -/
def service (m : Memory) (validator : RequestObject.Validator) (signer : CredentialSigner) :
    Http.Service :=
  ⟨⟨validator, fun _ => .ok ()⟩, m.credentialService signer⟩

/-- The stores after an answer. -/
def after (m : Memory) (answer : Http.Answer) : Memory :=
  match answer.stored with
  | some item => { m with codes := m.codes.create item }
  | none => m

end Memory

structure Ledger where
  memory : Memory
  trail : Audit.Trail
  deriving Repr

namespace Ledger

def empty : Ledger := ⟨.empty, [], []⟩

def emitAll (l : Ledger) (sink : Audit.Sink) (now : Timestamp) (names : List Audit.EventName) :
    Ledger :=
  { l with trail := names.foldl (fun trail name => trail.emit sink (.of name now)) l.trail }

/-- Stores and events after an answer. -/
def after (l : Ledger) (sink : Audit.Sink) (now : Timestamp) (answer : Http.Answer) : Ledger :=
  { l with memory := l.memory.after answer }.emitAll sink now answer.events

end Ledger

end CredentialIssuer.Server
