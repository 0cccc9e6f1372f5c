import CredentialIssuer.Text.Digits
import CredentialIssuer.Text.Segments

/-! Lengths of time to the nanosecond and their text, such as `1h 30m`. -/
namespace CredentialIssuer

structure TimeSpan where
  seconds : Nat
  nanos : Nat
  seconds_lt : seconds < 2 ^ 64 := by decide
  nanos_lt : nanos < 1000000000 := by decide
  deriving DecidableEq, Repr

namespace TimeSpan

def zero : TimeSpan := ⟨0, 0, by decide, by decide⟩

def ofSeconds (seconds : Nat) (h : seconds < 2 ^ 64 := by decide) : TimeSpan :=
  ⟨seconds, 0, h, by decide⟩

def ofSeconds? (seconds : Nat) : Option TimeSpan :=
  if h : seconds < 2 ^ 64 then some ⟨seconds, 0, h, by decide⟩ else none

def totalNanos (s : TimeSpan) : Nat := s.seconds * 1000000000 + s.nanos

def ofNanos? (total : Nat) : Option TimeSpan :=
  if h : total / 1000000000 < 2 ^ 64 then
    some ⟨total / 1000000000, total % 1000000000, h, Nat.mod_lt _ (by decide)⟩
  else none

def isZero (s : TimeSpan) : Bool := s.seconds == 0 && s.nanos == 0

inductive Unit where
  | nanosecond | microsecond | millisecond | second | minute | hour | day | week | month | year
  deriving DecidableEq, Repr

namespace Unit

def ofName? : String → Option Unit
  | "nanos" | "nsec" | "ns" => some .nanosecond
  | "usec" | "us" | "µs" => some .microsecond
  | "millis" | "msec" | "ms" => some .millisecond
  | "seconds" | "second" | "secs" | "sec" | "s" => some .second
  | "minutes" | "minute" | "min" | "mins" | "m" => some .minute
  | "hours" | "hour" | "hrs" | "hr" | "h" => some .hour
  | "days" | "day" | "d" => some .day
  | "weeks" | "week" | "wks" | "wk" | "w" => some .week
  | "months" | "month" | "M" => some .month
  | "years" | "year" | "yrs" | "yr" | "y" => some .year
  | _ => none

/-- A month is 30.44 days and a year 365.25. -/
def inNanos : Unit → Nat
  | .nanosecond => 1
  | .microsecond => 1000
  | .millisecond => 1000000
  | .second => 1000000000
  | .minute => 60000000000
  | .hour => 3600000000000
  | .day => 86400000000000
  | .week => 604800000000000
  | .month => 2630016000000000
  | .year => 31557600000000000

/-- Seconds and nanoseconds of a count: units below a second are counted in nanoseconds. -/
private def whole (unit : Unit) (count : Nat) : Nat × Nat :=
  if unit.inNanos < 1000000000 then (0, count * unit.inNanos)
  else (count * (unit.inNanos / 1000000000), 0)

/-- Fractions of an hour and more are cut to whole seconds, the others to nanoseconds. -/
private def fraction? (unit : Unit) (numerator denominator : Nat) : Option (Nat × Nat) :=
  if unit.inNanos ≤ 60000000000 then
    let scaled := numerator * unit.inNanos
    if scaled < 2 ^ 64 then some (0, scaled / denominator) else none
  else
    let scaled := numerator * (unit.inNanos / 1000000000)
    if scaled < 2 ^ 64 then some (scaled / denominator, 0) else none

end Unit

private def isLetter (c : Char) : Bool :=
  ('a' ≤ c && c ≤ 'z') || ('A' ≤ c && c ≤ 'Z') || c == 'µ'

/-- Whole part and decimal places of a count. -/
private structure Amount where
  whole : Nat
  numerator : Nat
  denominator : Nat

private def fits (n : Nat) : Bool := n < 2 ^ 64

/-- Every step of a sum stays within 64 bits. -/
private def plus? (total : Nat) (part : Nat × Nat) : Option Nat :=
  let next := total + part.1 * 1000000000 + part.2
  if fits part.1 && fits (total % 1000000000 + part.2) && fits (next / 1000000000) then some next
  else none

private def add? (total : Nat) (a : Amount) (unit : Unit) : Option Nat := do
  let total ← plus? total (unit.whole a.whole)
  if a.denominator = 1 then some total
  else plus? total (← unit.fraction? a.numerator a.denominator)

/-- The places after a point, at least one, up to the unit. -/
private def places? (numerator denominator : Nat) : List Char → Option (Nat × Nat × List Char)
  | [] => if denominator = 1 then none else some (numerator, denominator, [])
  | c :: rest =>
    if Text.isDigit c then
      let numerator := 10 * numerator + Text.digitValue c
      if fits (10 * denominator) && fits numerator then places? numerator (10 * denominator) rest
      else none
    else if Text.isBlank c then places? numerator denominator rest
    else if isLetter c ∧ denominator ≠ 1 then some (numerator, denominator, c :: rest)
    else none

/-- A count and the text from its unit on; blanks may stand anywhere in a count. -/
private def amount? (whole : Nat) : List Char → Option (Amount × List Char)
  | [] => some (⟨whole, 0, 1⟩, [])
  | c :: rest =>
    if Text.isDigit c then
      let next := 10 * whole + Text.digitValue c
      if fits next then amount? next rest else none
    else if Text.isBlank c then amount? whole rest
    else if isLetter c then some (⟨whole, 0, 1⟩, c :: rest)
    else if c = '.' then
      (places? 0 1 rest).map fun (numerator, denominator, rest) =>
        (⟨whole, numerator, denominator⟩, rest)
    else none

private def readFrom? : (fuel total : Nat) → List Char → Option Nat
  | 0, total, _ => some total
  | fuel + 1, total, cs =>
    match cs.dropWhile Text.isBlank with
    | [] => some total
    | c :: rest =>
      if !Text.isDigit c then none
      else do
        let (a, rest) ← amount? (Text.digitValue c) rest
        let name := rest.takeWhile isLetter
        let rest := rest.dropWhile isLetter
        let unit ← Unit.ofName? (String.ofList name)
        let total ← add? total a unit
        match rest with
        | [] => some total
        | next :: _ =>
          if Text.isDigit next || Text.isBlank next then readFrom? fuel total rest else none

/-- Counts with their units, in any order and added up; a bare `0` is allowed too. -/
def read? (text : String) : Option TimeSpan :=
  let cs := text.toList
  if cs = ['0'] then some zero
  else if cs.all Text.isBlank then none
  else (readFrom? (cs.length + 1) 0 cs).bind ofNanos?

private def plural (count : Nat) (name : String) : Option String :=
  if count = 0 then none
  else some (toString count ++ name ++ (if count = 1 then "" else "s"))

private def short (count : Nat) (name : String) : Option String :=
  if count = 0 then none else some (toString count ++ name)

/-- From years down to nanoseconds, leaving out what is zero. -/
def print (s : TimeSpan) : String :=
  if s.isZero then "0s"
  else
    let ofYear := s.seconds % 31557600
    let ofMonth := ofYear % 2630016
    let ofDay := ofMonth % 86400
    let parts := [plural (s.seconds / 31557600) "year", plural (ofYear / 2630016) "month",
      plural (ofMonth / 86400) "day", short (ofDay / 3600) "h", short (ofDay % 3600 / 60) "m",
      short (ofDay % 60) "s", short (s.nanos / 1000000) "ms", short (s.nanos / 1000 % 1000) "us",
      short (s.nanos % 1000) "ns"]
    String.intercalate " " (parts.filterMap id)

end TimeSpan

end CredentialIssuer
