import CredentialIssuer.Number.Shortest
import CredentialIssuer.Text.Digits

/-! Floating-point numbers together with the infinities and what is no number, and reading them
from decimal text. -/
namespace CredentialIssuer

inductive Extended where
  | finite (value : Binary64)
  | infinite (negative : Bool)
  | notANumber
  deriving DecidableEq, Repr

namespace Extended

/-- Without an exponent. -/
def plainText : Extended → String
  | .finite x => x.plainText
  | .infinite false => "inf"
  | .infinite true => "-inf"
  | .notANumber => "NaN"

/-- The nearest whole number, stopping at zero and at the end of 64 bits. -/
def roundToNat : Extended → Nat
  | .finite x => min x.roundAway.toNat (2 ^ 64 - 1)
  | .infinite false => 2 ^ 64 - 1
  | .infinite true => 0
  | .notANumber => 0

/-- The correctly rounded value, which is infinite beyond the range. -/
def ofDecimal (negative : Bool) (significand : Nat) (exponent : Int) : Extended :=
  match Binary64.ofDecimalExact? significand exponent with
  | some x => .finite { x with negative := negative }
  | none => .infinite negative

def signed? : List Char → Option (Int × List Char)
  | '+' :: rest => some (1, rest)
  | '-' :: rest => some (-1, rest)
  | rest => some (1, rest)

def exponent? (cs : List Char) : Option Int :=
  match cs with
  | [] => some 0
  | c :: rest =>
    if c = 'e' ∨ c = 'E' then do
      let (sign, digits) ← signed? rest
      some (sign * (← Text.natural? digits))
    else none

/-- The places after a point, if there is one, and what follows them. -/
def splitPlaces : List Char → List Char × List Char
  | '.' :: rest => (rest.takeWhile Text.isDigit, rest.dropWhile Text.isDigit)
  | rest => ([], rest)

def unsigned? (negative : Bool) (cs : List Char) : Option Extended :=
  let whole := cs.takeWhile Text.isDigit
  let (places, rest) := splitPlaces (cs.dropWhile Text.isDigit)
  if whole.isEmpty && places.isEmpty then none
  else (exponent? rest).map fun exponent =>
    ofDecimal negative (Text.ofDigits (whole ++ places)) (exponent - places.length)

def named? (negative : Bool) (name : String) : Option Extended :=
  if name = "inf" ∨ name = "infinity" then some (.infinite negative)
  else if name = "nan" then some .notANumber
  else none

/-- Digits with a point and an exponent, each of which may be missing, or a name in any case. -/
def ofChars? (cs : List Char) : Option Extended := do
  let (sign, rest) ← signed? cs
  let negative := sign < 0
  (named? negative (String.ofList (rest.map Char.toLower))).or (unsigned? negative rest)

end Extended

end CredentialIssuer
