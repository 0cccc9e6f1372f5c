import CredentialIssuer.Crypto.Rsa
import CredentialIssuer.Crypto.Sha256
import CredentialIssuer.Text.Digits

/-! Signatures on the elliptic curve P-256 with SHA-256. -/
namespace CredentialIssuer.P256

/-- The prime of the field. -/
def prime : Nat := 2 ^ 256 - 2 ^ 224 + 2 ^ 192 + 2 ^ 96 - 1

/-- The number of points. -/
def order : Nat := 0xffffffff00000000ffffffffffffffffbce6faada7179e84f3b9cac2fc632551

private def constantTerm : Nat := 0x5ac635d8aa3a93e7b3ebbd55769886bc651d06b0cc53b0f63bce3c3e27d2604b

/-- The point `(x / z ^ 2, y / z ^ 3)`; the neutral one has `z = 0`. -/
structure Point where
  x : Nat
  y : Nat
  z : Nat
  deriving DecidableEq, Repr

def generator : Point :=
  ⟨0x6b17d1f2e12c4247f8bce6e563a440f277037d812deb33a0f4a13945d898c296,
    0x4fe342e2fe1a7f9b8ee7eb4a7c0f9e162bce33576b315ececbb6406837bf51f5, 1⟩

def neutral : Point := ⟨1, 1, 0⟩

private def minus (a b : Nat) : Nat := (a + prime - b % prime) % prime

def Point.double (p : Point) : Point :=
  if p.z = 0 ∨ p.y = 0 then neutral
  else
    let delta := p.z * p.z % prime
    let gamma := p.y * p.y % prime
    let beta := p.x * gamma % prime
    let alpha := 3 * (minus p.x delta * (p.x + delta)) % prime
    let x := minus (alpha * alpha) (8 * beta)
    let y := minus (alpha * minus (4 * beta) x) (8 * gamma * gamma)
    ⟨x, y, 2 * p.y * p.z % prime⟩

def Point.add (p q : Point) : Point :=
  if p.z = 0 then q
  else if q.z = 0 then p
  else
    let pz := p.z * p.z % prime
    let qz := q.z * q.z % prime
    let u := p.x * qz % prime
    let v := q.x * pz % prime
    let s := p.y * qz % prime * q.z % prime
    let t := q.y * pz % prime * p.z % prime
    if u = v then (if s = t then p.double else neutral)
    else
      let h := minus v u
      let r := minus t s
      let h2 := h * h % prime
      let h3 := h * h2 % prime
      let x := minus (minus (r * r) h3) (2 * u * h2)
      let y := minus (r * minus (u * h2) x) (s * h3)
      ⟨x, y, h * p.z % prime * q.z % prime⟩

/-- `j * p + k * q`, from the highest bit down. -/
private def combine (p q both : Point) : (bits : Nat) → (j k : Nat) → Point → Point
  | 0, _, _, acc => acc
  | bits + 1, j, k, acc =>
    let acc := acc.double
    let acc := match j.testBit bits, k.testBit bits with
      | true, true => acc.add both
      | true, false => acc.add p
      | false, true => acc.add q
      | false, false => acc
    combine p q both bits j k acc

private def Point.affineX (p : Point) : Nat :=
  let inverse := Rsa.powMod p.z (prime - 2) prime
  p.x * (inverse * inverse % prime) % prime

/-- A point from its uncompressed form. -/
def point? : Bytes → Option Point
  | 4 :: rest =>
    let x := Bytes.toNat (rest.take 32)
    let y := Bytes.toNat (rest.drop 32)
    if rest.length = 64 ∧ x < prime ∧ y < prime
        ∧ y * y % prime = minus (x * x * x + constantTerm) (3 * x) then some ⟨x, y, 1⟩
    else none
  | _ => none

private def inRange (n : Nat) : Bool := 0 < n && n < order

/-- The two halves of a signature are numbers below the order of the curve, other than zero. -/
def verify (key : Point) (message signature : Bytes) : Bool :=
  let r := Bytes.toNat (signature.take 32)
  let s := Bytes.toNat (signature.drop 32)
  if signature.length = 64 ∧ inRange r ∧ inRange s then
    let inverse := Rsa.powMod s (order - 2) order
    let hash := Bytes.toNat (Sha256.digest message)
    let p := combine generator key (generator.add key) 256 (hash * inverse % order)
      (r * inverse % order) neutral
    p.z ≠ 0 && p.affineX % order == r
  else false

end CredentialIssuer.P256
