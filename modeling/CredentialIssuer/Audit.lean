import CredentialIssuer.Error
import CredentialIssuer.Json.Basic
import CredentialIssuer.Json.Record
import CredentialIssuer.Time.Timestamp

/-! Audit events. Whether one is delivered makes no difference to the request that it tells of. -/
namespace CredentialIssuer.Audit

inductive EventName where
  | authorizationRequested
  | credentialIssued
  deriving DecidableEq, Repr

namespace EventName

def text : EventName → String
  | .authorizationRequested => "IPV_PASSPORT_CRI_AUTHORIZATION_REQUESTED"
  | .credentialIssued => "IPV_PASSPORT_CRI_VC_ISSUED"

def ofText? (text : String) : Option EventName :=
  [authorizationRequested, credentialIssued].find? fun name => name.text == text

end EventName

structure Event where
  /-- Seconds since 1970. -/
  timestamp : Int64
  name : EventName
  deriving DecidableEq, Repr

namespace Event

def ofJson? (value : Json) : Option Event := do
  let r ← Json.record? ["timestamp", "event_name"] value
  some {
    timestamp := Int64.ofInt (← r.required "timestamp" Json.asInt64?)
    name := ← r.required "event_name" fun v => v.asCase?.bind EventName.ofText? }

def toJson (e : Event) : Json :=
  .object [("timestamp", .ofInt e.timestamp.toInt), ("event_name", .string e.name.text)]

def of (name : EventName) (now : Timestamp) : Event := ⟨Int64.ofInt now.unixSeconds, name⟩

end Event

/-- A sink takes an event or tells why not. -/
abbrev Sink := Event → Except ServiceError Unit

/-- The events that were handed to a sink, delivered or not, and the failures that were logged. -/
structure Trail where
  attempted : List Event
  failures : List (EventName × ServiceError)
  deriving DecidableEq, Repr

/-- A failure is logged and goes no further. -/
def Trail.emit (trail : Trail) (sink : Sink) (event : Event) : Trail :=
  let attempted := trail.attempted ++ [event]
  match sink event with
  | .ok () => ⟨attempted, trail.failures⟩
  | .error e => ⟨attempted, trail.failures ++ [(event.name, e)]⟩

/-- An event is on the trail whatever the sink makes of it. -/
@[simp] theorem Trail.emit_attempted (trail : Trail) (sink : Sink) (event : Event) :
    (trail.emit sink event).attempted = trail.attempted ++ [event] := by
  rw [Trail.emit]
  split <;> rfl

/-- Events are on the trail in the order in which they were sent. -/
theorem foldl_emit_attempted (sink : Sink) (now : Timestamp) (names : List EventName)
    (trail : Trail) :
    (names.foldl (fun trail name => trail.emit sink (.of name now)) trail).attempted =
      trail.attempted ++ names.map fun name => .of name now := by
  induction names generalizing trail with
  | nil => simp
  | cons name rest ih => simp [ih]

end CredentialIssuer.Audit
