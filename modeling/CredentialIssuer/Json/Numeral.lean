import CredentialIssuer.Json.Basic
import CredentialIssuer.Text.Digits

/-! JSON numerals: their grammar and the number each stands for. -/
namespace CredentialIssuer.Json

/-- The parts of a numeral, each a run of digits. -/
structure Numeral where
  negative : Bool
  whole : List Char
  fraction : Option (List Char)
  exponent : Option (Bool × List Char)
  deriving Repr

def isNumeralChar (c : Char) : Bool :=
  Text.isDigit c || c == '-' || c == '+' || c == '.' || c == 'e' || c == 'E'

namespace Numeral

def exponentPart? : List Char → Option (Option (Bool × List Char))
  | [] => some none
  | mark :: rest =>
    if mark = 'e' ∨ mark = 'E' then
      let (negative, digits) := match rest with
        | '+' :: digits => (false, digits)
        | '-' :: digits => (true, digits)
        | digits => (false, digits)
      if !digits.isEmpty && digits.all Text.isDigit then some (some (negative, digits)) else none
    else none

def fractionPart? : List Char → Option (Option (List Char) × List Char)
  | '.' :: rest =>
    let digits := rest.takeWhile Text.isDigit
    if digits.isEmpty then none else some (some digits, rest.dropWhile Text.isDigit)
  | rest => some (none, rest)

/-- No leading zeros, and digits on both sides of a point. -/
def ofChars? (cs : List Char) : Option Numeral := do
  let (negative, cs) := match cs with
    | '-' :: rest => (true, rest)
    | rest => (false, rest)
  let whole := cs.takeWhile Text.isDigit
  if whole.isEmpty || (whole.head? == some '0' && whole.length != 1) then none
  let (fraction, rest) ← fractionPart? (cs.dropWhile Text.isDigit)
  let exponent ← exponentPart? rest
  some ⟨negative, whole, fraction, exponent⟩

/-- Appends digits to a significand as long as it stays within 64 bits; the first digit that does
not fit and all after it are dropped. The count is of the digits taken. -/
def absorb (significand taken : Nat) : List Char → Nat × Nat
  | [] => (significand, taken)
  | c :: rest =>
    let next := 10 * significand + Text.digitValue c
    if next < 2 ^ 64 then absorb next (taken + 1) rest else (significand, taken)

private def scaled? (negative : Bool) (significand : Nat) (exponent : Int) : Option Number :=
  (Binary64.ofDecimal? significand exponent).map fun x =>
    .binary64 (if negative then x.neg else x)

private def withExponent? (negative : Bool) (significand : Nat) (exponent : Int) :
    Option (Bool × List Char) → Option Number
  | none => scaled? negative significand exponent
  | some (down, digits) =>
    let shift : Int := Text.ofDigits digits
    if 2 ^ 31 ≤ shift then
      if significand ≠ 0 ∧ !down then none
      else some (.binary64 (if negative then Binary64.zero.neg else .zero))
    else scaled? negative significand (if down then exponent - shift else exponent + shift)

/-- Whole numbers of 64 bits are exact, except for a negative zero; nothing stands for a numeral
beyond the binary64 range. -/
def number? (n : Numeral) : Option Number :=
  let (significand, taken) := absorb 0 0 n.whole
  let dropped : Int := (n.whole.length : Int) - taken
  match n.fraction, n.exponent with
  | none, none =>
    if dropped = 0 then
      if !n.negative then some (.integer significand)
      else if significand = 0 ∨ 2 ^ 63 < significand then
        (Binary64.ofNat? significand).map fun x => .binary64 x.neg
      else some (.integer (-(significand : Int)))
    else scaled? n.negative significand dropped
  | some digits, exponent =>
    let (significand, taken) := absorb significand 0 digits
    withExponent? n.negative significand (dropped - taken) exponent
  | none, exponent => withExponent? n.negative significand dropped exponent

end Numeral

end CredentialIssuer.Json
