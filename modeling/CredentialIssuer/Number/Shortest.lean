import CredentialIssuer.Number.Binary64
import CredentialIssuer.Text.Digits

/-! The fewest decimal digits that read back as a binary64 number, nearest to it among those,
and two ways of writing them. -/
namespace CredentialIssuer.Binary64

/-- The magnitude as a fraction. -/
private def magnitude (x : Binary64) : Nat × Nat :=
  if 0 ≤ x.exponent then (x.mantissa * 2 ^ x.exponent.toNat, 1)
  else (x.mantissa, 2 ^ (-x.exponent).toNat)

/-- Whether `num / den` rounds to the magnitude of `x`: it lies no further away than half way to
the neighbours, and exactly half way only where the even mantissa wins. -/
private def roundsTo (x : Binary64) (num den : Nat) : Bool :=
  let (n, d) := x.magnitude
  -- Quarter units keep both half gaps whole.
  let quarter := fun (k : Nat) => if 0 ≤ x.exponent then k * 2 ^ x.exponent.toNat * d else k
  let lowGap := if x.mantissa = 2 ^ 52 ∧ minExponent < x.exponent then 1 else 2
  let scaled := 4 * num * d
  let low := (4 * n - quarter lowGap) * den
  let high := (4 * n + quarter 2) * den
  if x.mantissa % 2 = 0 then low ≤ scaled && scaled ≤ high
  else low < scaled && scaled < high

private def pow10Ratio (e : Int) : Nat × Nat :=
  if 0 ≤ e then (10 ^ e.toNat, 1) else (1, 10 ^ (-e).toNat)

/-- The exponent of the leading decimal digit. -/
private def decimalExponent (num den : Nat) : Int :=
  let guess : Int := (((num.log2 : Int) - (den.log2 : Int)) * 30103) / 100000
  let below := fun (e : Int) => let (n, d) := pow10Ratio e; n * den ≤ num * d
  if below (guess + 1) then guess + 1 else if below guess then guess else guess - 1

private def stripZeros : (fuel : Nat) → Nat → Int → Nat × Int
  | 0, d, e => (d, e)
  | fuel + 1, d, e => if d % 10 = 0 ∧ d ≠ 0 then stripZeros fuel (d / 10) (e + 1) else (d, e)

/-- The first grid of at most `left` more digits with a point that rounds to `x`. -/
private def search (x : Binary64) (top : Int) : (left digits : Nat) → Nat × Int
  | 0, _ => (x.mantissa, x.exponent)
  | left + 1, digits =>
    let unit : Int := top - digits + 1
    let (un, ud) := pow10Ratio unit
    let (n, d) := x.magnitude
    let lower := n * ud / (d * un)
    let hit := fun (k : Nat) => roundsTo x (k * un) ud
    match hit lower, hit (lower + 1) with
    | true, false => stripZeros 400 lower unit
    | false, true => stripZeros 400 (lower + 1) unit
    | true, true =>
      let twice := 2 * n * ud
      let middle := (2 * lower + 1) * d * un
      let pick := if twice < middle then lower
        else if middle < twice then lower + 1
        else if lower % 2 = 0 then lower else lower + 1
      stripZeros 400 pick unit
    | false, false => search x top left (digits + 1)

/-- Digits and the exponent of the last one. -/
def shortest (x : Binary64) : Nat × Int :=
  if x.mantissa = 0 then (0, 0)
  else
    let (n, d) := x.magnitude
    search x (decimalExponent n d) 17 1

def sign (x : Binary64) : List Char := if x.negative then ['-'] else []

/-- Digits with a point after the one of weight one; zeros fill the places between. -/
def positional (digits : List Char) (last : Int) : List Char × List Char :=
  if 0 ≤ last then (digits ++ List.replicate last.toNat '0', [])
  else
    let places := (-last).toNat
    if places < digits.length then
      (digits.take (digits.length - places), digits.drop (digits.length - places))
    else (['0'], List.replicate (places - digits.length) '0' ++ digits)

/-- Without an exponent, and without a point when the number is whole. -/
def plainText (x : Binary64) : String :=
  let (d, last) := x.shortest
  let (whole, fraction) := positional (toString d).toList last
  String.ofList (x.sign ++ whole ++ if fraction.isEmpty then [] else '.' :: fraction)

/-- With a point always, and with a signed exponent below 1e-5 and from 1e16 on. -/
def scientificText (x : Binary64) : String :=
  let (d, last) := x.shortest
  let digits := (toString d).toList
  let top : Int := last + digits.length - 1
  let body :=
    if d = 0 then "0.0".toList
    else if -5 ≤ top ∧ top < 16 then
      let (whole, fraction) := positional digits last
      whole ++ '.' :: if fraction.isEmpty then ['0'] else fraction
    else
      let mantissa := match digits with
        | first :: second :: rest => first :: '.' :: second :: rest
        | short => short
      mantissa ++ 'e' :: (if top < 0 then '-' else '+') :: (toString top.natAbs).toList
  String.ofList (x.sign ++ body)

end CredentialIssuer.Binary64
