import CredentialIssuer.Text.Digits
import CredentialIssuer.Time.Date

/-! Points in time to the nanosecond, with the offset of the clock they were read from, and their
RFC 3339 text. -/
namespace CredentialIssuer

structure Timestamp where
  /-- Since 1970-01-01T00:00:00Z. -/
  unixNanos : Int
  /-- Seconds that local time is ahead of UTC. -/
  offset : Int
  deriving DecidableEq, Repr

namespace Timestamp

def nanosPerSecond : Int := 1000000000

/-- The first and the last second of the years -9999 to 9999. -/
def minUnixSeconds : Int := -377705116800
def maxUnixSeconds : Int := 253402300799

def minUnixNanos : Int := minUnixSeconds * nanosPerSecond
def maxUnixNanos : Int := maxUnixSeconds * nanosPerSecond + (nanosPerSecond - 1)

def ofUnixSeconds? (seconds : Int) : Option Timestamp :=
  if minUnixSeconds ≤ seconds ∧ seconds ≤ maxUnixSeconds then
    some ⟨seconds * nanosPerSecond, 0⟩
  else none

def unixSeconds (t : Timestamp) : Int := t.unixNanos.fdiv nanosPerSecond

/-- Local time lies in the years -9999 to 9999, and the clock is off by less than 26 hours. -/
structure OnCalendar (t : Timestamp) : Prop where
  notBefore : minUnixNanos ≤ t.unixNanos + t.offset * nanosPerSecond
  notAfter : t.unixNanos + t.offset * nanosPerSecond ≤ maxUnixNanos
  offset : t.offset.natAbs < 93600

/-- Seconds of the calendar are far from the ends of 64 bits. -/
theorem OnCalendar.unixSeconds_bounds {t : Timestamp} (h : t.OnCalendar) :
    -2 ^ 40 ≤ t.unixSeconds ∧ t.unixSeconds ≤ 2 ^ 40 := by
  obtain ⟨hlow, hhigh, hoffset⟩ := h
  simp only [minUnixNanos, maxUnixNanos, minUnixSeconds, maxUnixSeconds, nanosPerSecond]
    at hlow hhigh
  have hseconds : t.unixSeconds = t.unixNanos / 1000000000 :=
    Int.fdiv_eq_ediv_of_nonneg _ (by decide)
  omega

/-- So they are exact as 64-bit numbers. -/
theorem OnCalendar.toInt_unixSeconds {t : Timestamp} (h : t.OnCalendar) :
    (Int64.ofInt t.unixSeconds).toInt = t.unixSeconds := by
  have hbounds := h.unixSeconds_bounds
  exact Int64.toInt_ofInt_of_le (by omega) (by omega)

def nanosOfSecond (t : Timestamp) : Nat := (t.unixNanos.fmod nanosPerSecond).toNat

private def secondsOf (year : Int) (month day hour minute second : Nat) : Int :=
  Date.toDays year month day * 86400 + hour * 3600 + minute * 60 + second

/-- Nine places at most are kept. -/
private def fraction? : List Char → Option (Nat × List Char)
  | '.' :: rest =>
    let digits := rest.takeWhile Text.isDigit
    if digits.isEmpty then none
    else
      let kept := digits.take 9
      some (Text.ofDigits kept * 10 ^ (9 - kept.length), rest.dropWhile Text.isDigit)
  | rest => some (0, rest)

private def zone? : List Char → Option Int
  | ['Z'] => some 0
  | ['z'] => some 0
  | sign :: rest => do
    if sign ≠ '+' ∧ sign ≠ '-' then none
    let (hours, rest) ← Text.takeDigits? 2 rest
    let ':' :: rest := rest | none
    let (minutes, []) ← Text.takeDigits? 2 rest | none
    if 23 < hours ∨ 59 < minutes then none
    let seconds : Int := hours * 3600 + minutes * 60
    some (if sign = '-' then -seconds else seconds)
  | [] => none

/-- Whether a second 60 may follow: the last second of a month in UTC. -/
private def endsMonth (seconds : Int) : Bool :=
  let (year, month, day) := Date.ofDays (seconds.fdiv 86400)
  seconds.fmod 86400 = 86399 && day = Date.daysInMonth year month
    && -9999 ≤ year && year ≤ 9999

/-- Any single character may stand between date and time. A leap second is read as the last
nanosecond before it. -/
def ofChars? (cs : List Char) : Option Timestamp := do
  let (year, cs) ← Text.takeDigits? 4 cs
  let '-' :: cs := cs | none
  let (month, cs) ← Text.takeDigits? 2 cs
  let '-' :: cs := cs | none
  let (day, cs) ← Text.takeDigits? 2 cs
  let separator :: cs := cs | none
  if separator.toNat ≥ 128 then none
  let (hour, cs) ← Text.takeDigits? 2 cs
  let ':' :: cs := cs | none
  let (minute, cs) ← Text.takeDigits? 2 cs
  let ':' :: cs := cs | none
  let (second, cs) ← Text.takeDigits? 2 cs
  let (nanos, cs) ← fraction? cs
  let offset ← zone? cs
  if !Date.isValid year month day || 23 < hour || 59 < minute || 60 < second then none
  let leap := second = 60
  let seconds := secondsOf year month day hour minute (if leap then 59 else second) - offset
  if leap && !endsMonth seconds then none
  let nanos : Int := if leap then nanosPerSecond - 1 else nanos
  some ⟨seconds * nanosPerSecond + nanos, offset⟩

def read? (text : String) : Option Timestamp := ofChars? text.toList

private def zoneChars (offset : Int) : List Char :=
  if offset = 0 then ['Z']
  else
    (if offset < 0 then '-' else '+') :: Text.padded 2 (offset.natAbs / 3600)
      ++ ':' :: Text.padded 2 (offset.natAbs / 60 % 60)

/-- Local time, the fraction without trailing zeros. -/
def chars (t : Timestamp) : List Char :=
  let local_ := t.unixSeconds + t.offset
  let (year, month, day) := Date.ofDays (local_.fdiv 86400)
  let second := (local_.fmod 86400).toNat
  let fraction := Text.withoutZeros (Text.padded 9 t.nanosOfSecond)
  Text.padded 4 year.toNat ++ '-' :: Text.padded 2 month ++ '-' :: Text.padded 2 day
    ++ 'T' :: Text.padded 2 (second / 3600) ++ ':' :: Text.padded 2 (second / 60 % 60)
    ++ ':' :: Text.padded 2 (second % 60)
    ++ (if fraction.isEmpty then [] else '.' :: fraction) ++ zoneChars t.offset

def print (t : Timestamp) : String := String.ofList t.chars

end Timestamp

end CredentialIssuer
