import CredentialIssuer.Text.Bytes

/-! The URL-safe alphabet without padding. Reading is strict: no padding, no blanks, and the
bits left over in the last digit are zero, so a byte string has one text. -/
namespace CredentialIssuer.Base64Url

/-- The digit of a value below 64. -/
def digit (n : Nat) : Char :=
  if n < 26 then Char.ofNat (65 + n)
  else if n < 52 then Char.ofNat (71 + n)
  else if n < 62 then Char.ofNat (n - 4)
  else if n = 62 then '-' else '_'

def value? (c : Char) : Option Nat :=
  if 'A' ≤ c ∧ c ≤ 'Z' then some (c.toNat - 65)
  else if 'a' ≤ c ∧ c ≤ 'z' then some (c.toNat - 71)
  else if '0' ≤ c ∧ c ≤ '9' then some (c.toNat + 4)
  else if c = '-' then some 62
  else if c = '_' then some 63
  else none

/-- Three bytes are four digits; one or two bytes at the end are two or three. -/
def digits : Bytes → List Char
  | [] => []
  | [a] => [digit (a.toNat / 4), digit (a.toNat % 4 * 16)]
  | [a, b] =>
    [digit (a.toNat / 4), digit (a.toNat % 4 * 16 + b.toNat / 16), digit (b.toNat % 16 * 4)]
  | a :: b :: c :: rest =>
    digit (a.toNat / 4) :: digit (a.toNat % 4 * 16 + b.toNat / 16)
      :: digit (b.toNat % 16 * 4 + c.toNat / 64) :: digit (c.toNat % 64) :: digits rest

def first (a b : Nat) : UInt8 := UInt8.ofNat (a * 4 + b / 16)
def second (b c : Nat) : UInt8 := UInt8.ofNat (b % 16 * 16 + c / 4)
def third (c d : Nat) : UInt8 := UInt8.ofNat (c % 4 * 64 + d)

/-- The bytes of a sequence of digit values. -/
def ofValues? : List Nat → Option Bytes
  | [] => some []
  | [_] => none
  | [a, b] => if b % 16 = 0 then some [first a b] else none
  | [a, b, c] => if c % 4 = 0 then some [first a b, second b c] else none
  | a :: b :: c :: d :: rest =>
    (ofValues? rest).map fun bytes => first a b :: second b c :: third c d :: bytes

def encode (bytes : Bytes) : String := String.ofList (digits bytes)

def decode? (text : String) : Option Bytes := (text.toList.mapM value?).bind ofValues?

end CredentialIssuer.Base64Url
