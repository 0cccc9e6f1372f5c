import CredentialIssuer.Text.Digits

/-! Finite binary floating-point numbers of 53 bits, with exact rounding in whole numbers. -/
namespace CredentialIssuer

/-- The number `mantissa * 2 ^ exponent`, with the sign kept apart so that zero has one too.
Either the mantissa has 53 bits or the exponent is the smallest one, -1074. -/
structure Binary64 where
  negative : Bool
  mantissa : Nat
  exponent : Int
  deriving DecidableEq, Repr, Inhabited

namespace Binary64

def minExponent : Int := -1074
def maxExponent : Int := 971

/-- The whole number nearest to a quotient; a half goes to the even neighbour. -/
def roundQuotient (num den : Nat) : Nat :=
  let q := num / den
  let r := num % den
  if 2 * r < den then q
  else if den < 2 * r then q + 1
  else if q % 2 = 0 then q else q + 1

/-- `num / den` in units of `2 ^ e`, as a fraction. -/
private def inUnits (num den : Nat) (e : Int) : Nat × Nat :=
  if 0 ≤ e then (num, den * 2 ^ e.toNat) else (num * 2 ^ (-e).toNat, den)

/-- The exponent at which the quotient has 53 bits, no smaller than the smallest. -/
private def unitExponent (num den : Nat) : Int :=
  let guess : Int := (num.log2 : Int) - (den.log2 : Int) - 52
  let (n, d) := inUnits num den guess
  let e := if 2 ^ 53 * d ≤ n then guess + 1 else if n < 2 ^ 52 * d then guess - 1 else guess
  max e minExponent

/-- The number nearest to `num / den * 2 ^ shift`, unless it is beyond the largest. -/
def nearest? (negative : Bool) (num den : Nat) (shift : Int) : Option Binary64 :=
  let (num, den) := inUnits num den (-shift)
  if num = 0 then some ⟨negative, 0, minExponent⟩
  else
    let e := unitExponent num den
    let (n, d) := inUnits num den e
    let m := roundQuotient n d
    let (m, e) := if m = 2 ^ 53 then (2 ^ 52, e + 1) else (m, e)
    if maxExponent < e then none else some ⟨negative, m, e⟩

def zero : Binary64 := ⟨false, 0, minExponent⟩

def ofNat? (n : Nat) : Option Binary64 := nearest? false n 1 0

def neg (x : Binary64) : Binary64 := { x with negative := !x.negative }

def isZero (x : Binary64) : Bool := x.mantissa == 0

def mul? (x y : Binary64) : Option Binary64 :=
  nearest? (x.negative != y.negative) (x.mantissa * y.mantissa) 1 (x.exponent + y.exponent)

/-- Division by a number other than zero. -/
def div? (x y : Binary64) : Option Binary64 :=
  nearest? (x.negative != y.negative) x.mantissa y.mantissa (x.exponent - y.exponent)

/-- The largest power of ten that is in range. -/
def maxPower : Nat := 308

private def power? (k : Nat) : Option Binary64 := ofNat? (10 ^ k)

/-- Divides by the largest power of ten `steps` times, or until nothing is left. -/
private def shrink : (steps : Nat) → Binary64 → Option Binary64
  | 0, x => some x
  | steps + 1, x =>
    if x.isZero then some x
    else do shrink steps (← x.div? (← power? maxPower))

/-- A significand is rounded first, then scaled by a rounded power of ten. -/
def ofDecimal? (significand : Nat) (exponent : Int) : Option Binary64 := do
  let x ← ofNat? significand
  if x.isZero then some x
  else if 0 ≤ exponent then
    if maxPower < exponent.toNat then none else x.mul? (← power? exponent.toNat)
  else
    let k := (-exponent).toNat
    let steps := (k - 1) / maxPower
    let x ← shrink steps x
    if x.isZero then some x else x.div? (← power? (k - steps * maxPower))

/-- The correctly rounded value of a decimal. -/
def ofDecimalExact? (significand : Nat) (exponent : Int) : Option Binary64 :=
  if significand = 0 then some zero
  else if 0 ≤ exponent then
    if 400 < exponent then none else nearest? false (significand * 10 ^ exponent.toNat) 1 0
  else
    let digits : Int := (significand.log2 : Int) / 3 + 1
    if exponent + digits < -400 then some zero
    else nearest? false significand (10 ^ (-exponent).toNat) 0

/-- The nearest whole number, a half going away from zero. -/
def roundAway (x : Binary64) : Int :=
  let magnitude : Nat :=
    if 0 ≤ x.exponent then x.mantissa * 2 ^ x.exponent.toNat
    else (2 * x.mantissa + 2 ^ (-x.exponent).toNat) / (2 * 2 ^ (-x.exponent).toNat)
  if x.negative then -(magnitude : Int) else magnitude

end Binary64

end CredentialIssuer
