import CredentialIssuer.Text.Digits

/-! Dates of the Gregorian calendar in the years -9999 to 9999, written `YYYY-MM-DD`. -/
namespace CredentialIssuer

namespace Date

def isLeapYear (year : Int) : Bool := year % 4 = 0 && (year % 100 ≠ 0 || year % 400 = 0)

def daysInMonth (year : Int) (month : Nat) : Nat :=
  if month = 2 then (if isLeapYear year then 29 else 28)
  else if month = 4 ∨ month = 6 ∨ month = 9 ∨ month = 11 then 30
  else 31

def isValid (year : Int) (month day : Nat) : Bool :=
  -9999 ≤ year && year ≤ 9999 && 1 ≤ month && month ≤ 12 && 1 ≤ day && day ≤ daysInMonth year month

end Date

structure Date where
  year : Int
  month : Nat
  day : Nat
  valid : Date.isValid year month day = true := by decide
  deriving DecidableEq, Repr

namespace Date

def ofParts? (year : Int) (month day : Nat) : Option Date :=
  if h : isValid year month day = true then some ⟨year, month, day, h⟩ else none

/-- Four digits of the year, two of the month and of the day; only years before 0 have a sign. -/
def chars (date : Date) : List Char :=
  (if date.year < 0 then ['-'] else []) ++ Text.padded 4 date.year.natAbs
    ++ '-' :: Text.padded 2 date.month ++ '-' :: Text.padded 2 date.day

def print (date : Date) : String := String.ofList date.chars

def ofUnsigned? (negative : Bool) (cs : List Char) : Option Date := do
  let (year, cs) ← Text.takeDigits? 4 cs
  let '-' :: cs := cs | none
  let (month, cs) ← Text.takeDigits? 2 cs
  let '-' :: cs := cs | none
  let (day, []) ← Text.takeDigits? 2 cs | none
  ofParts? (if negative then -(year : Int) else year) month day

/-- The year may carry either sign. -/
def ofChars? : List Char → Option Date
  | '-' :: cs => ofUnsigned? true cs
  | '+' :: cs => ofUnsigned? false cs
  | cs => ofUnsigned? false cs

def read? (text : String) : Option Date := ofChars? text.toList

/-- Days since 1970-01-01, with years that begin in March so that leap days come last. -/
def toDays (year : Int) (month day : Nat) : Int :=
  let y : Int := if month ≤ 2 then year - 1 else year
  let era := y.fdiv 400
  let yearOfEra := y - era * 400
  let monthFromMarch : Int := ((month : Int) + 9) % 12
  let dayOfYear : Int := (153 * monthFromMarch + 2) / 5 + day - 1
  let dayOfEra := yearOfEra * 365 + yearOfEra / 4 - yearOfEra / 100 + dayOfYear
  era * 146097 + dayOfEra - 719468

/-- Year, month and day of a count of days since 1970-01-01. -/
def ofDays (days : Int) : Int × Nat × Nat :=
  let z := days + 719468
  let era := z.fdiv 146097
  let dayOfEra := z - era * 146097
  let yearOfEra := (dayOfEra - dayOfEra / 1460 + dayOfEra / 36524 - dayOfEra / 146096) / 365
  let dayOfYear := dayOfEra - (365 * yearOfEra + yearOfEra / 4 - yearOfEra / 100)
  let monthFromMarch := (5 * dayOfYear + 2) / 153
  let day := dayOfYear - (153 * monthFromMarch + 2) / 5 + 1
  let month := if monthFromMarch < 10 then monthFromMarch + 3 else monthFromMarch - 9
  let year := yearOfEra + era * 400 + (if month ≤ 2 then 1 else 0)
  (year, month.toNat, day.toNat)

end Date

end CredentialIssuer
