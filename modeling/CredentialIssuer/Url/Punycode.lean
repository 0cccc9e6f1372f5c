import CredentialIssuer.Text.Digits

/-! Punycode: labels of any characters written in letters, digits and hyphens. The characters
beyond ASCII are told in the order of their code points, each by its distance from the one before,
as a number of variable length. -/
namespace CredentialIssuer.Punycode

def isAscii (c : Char) : Bool := c.toNat < 128

private def digit? (c : Char) : Option Nat :=
  if 'a' ≤ c ∧ c ≤ 'z' then some (c.toNat - 97)
  else if 'A' ≤ c ∧ c ≤ 'Z' then some (c.toNat - 65)
  else if '0' ≤ c ∧ c ≤ '9' then some (c.toNat - 22)
  else none

def digitChar (n : Nat) : Char := Char.ofNat (if n < 26 then 97 + n else 22 + n)

/-- The digit at place `k` ends a number if it is below this. -/
def threshold (k bias : Nat) : Nat :=
  if k ≤ bias then 1 else if bias + 26 ≤ k then 26 else k - bias

private def adaptLoop (delta k : Nat) : Nat × Nat :=
  if 455 < delta then adaptLoop (delta / 35) (k + 36) else (delta, k)
termination_by delta
decreasing_by exact Nat.div_lt_self (by omega) (by omega)

private def adapt (delta count : Nat) (isFirst : Bool) : Nat :=
  let delta := if isFirst then delta / 700 else delta / 2
  let (delta, k) := adaptLoop (delta + delta / count) 0
  k + 36 * delta / (delta + 38)

/-- One number of variable length, and what follows it. -/
private def delta? (i weight k bias : Nat) : List Char → Option (Nat × List Char)
  | [] => none
  | c :: rest => do
    let digit ← digit? c
    let i := i + digit * weight
    if 2 ^ 32 ≤ i ∨ 2 ^ 32 ≤ weight then none
    let t := threshold k bias
    if digit < t then some (i, rest) else delta? i (weight * (36 - t)) (k + 36) bias rest

private def insertAll : (fuel n i bias : Nat) → (decoded : List Char) → List Char →
    Option (List Char)
  | _, _, _, _, decoded, [] => some decoded
  | 0, _, _, _, _, _ => none
  | fuel + 1, n, i, bias, decoded, cs => do
    let (next, rest) ← delta? i 1 36 bias cs
    let count := decoded.length + 1
    let bias := adapt (next - i) count (i = 0)
    let n := n + next / count
    let place := next % count
    if 0x110000 ≤ n ∨ (0xD800 ≤ n ∧ n < 0xE000) then none
    insertAll fuel n (place + 1) bias
      (decoded.take place ++ Char.ofNat n :: decoded.drop place) rest

/-- The longest label that is read. -/
def mostDigits : Nat := 2000

/-- The characters before the last hyphen stand for themselves, if there are any. -/
def decode? (label : List Char) : Option (List Char) :=
  let tail := (label.reverse.takeWhile (· ≠ '-')).reverse
  let basic := label.take (label.length - tail.length - 1)
  let digits := if basic.isEmpty then label else tail
  if mostDigits < label.length then none else insertAll (digits.length + 1) 128 0 72 basic digits

/-- A number of variable length from the place `k` on. -/
def number (bias k n : Nat) : List Char :=
  let t := threshold k bias
  if n < t then [digitChar n]
  else digitChar (t + (n - t) % (36 - t)) :: number bias (k + 36) ((n - t) / (36 - t))
termination_by n
decreasing_by
  have ht : 0 < threshold k bias := by grind [threshold]
  exact Nat.lt_of_le_of_lt (Nat.div_le_self _ _) (by omega)

/-- What is written, how many characters it tells, and the distance from the last of them. -/
structure Coder where
  written : List Char
  count : Nat
  delta : Nat
  bias : Nat

/-- Passes a character when the code point to tell is `n`. -/
def Coder.pass (basic n : Nat) (s : Coder) (c : Char) : Coder :=
  if c.toNat < n then { s with delta := s.delta + 1 }
  else if c.toNat = n then
    { written := s.written ++ number s.bias 36 s.delta
      count := s.count + 1
      delta := 0
      bias := adapt s.delta (s.count + 1) (s.count = basic) }
  else s

/-- Tells code points in ascending order, of which those below `n` are told. -/
def Coder.tell (basic : Nat) (label : List Char) (s : Coder) (n : Nat) : List Nat → Coder
  | [] => s
  | m :: rest =>
    let s := { s with delta := s.delta + (m - n) * (s.count + 1) }
    let s := label.foldl (Coder.pass basic m) s
    Coder.tell basic label { s with delta := s.delta + 1 } (m + 1) rest

def encode (label : List Char) : List Char :=
  let basic := label.filter isAscii
  let codePoints := ((label.filter (!isAscii ·)).map Char.toNat).mergeSort.eraseDups
  let start := if basic.isEmpty then [] else basic ++ ['-']
  (Coder.tell basic.length label ⟨start, basic.length, 0, 72⟩ 128 codePoints).written

end CredentialIssuer.Punycode
