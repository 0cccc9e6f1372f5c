import CredentialIssuer.Text.Digits

/-! Byte strings: hexadecimal text, big-endian values and exclusive or. -/
namespace CredentialIssuer

abbrev Bytes := List UInt8

namespace Bytes

def hexDigit (n : Nat) : Char :=
  if n < 10 then Char.ofNat (48 + n) else Char.ofNat (87 + n)

def readHex (acc : Bytes) : List Char → Option Bytes
  | [] => some acc.reverse
  | [_] => none
  | h :: l :: rest =>
    match Text.digitIn? 16 h, Text.digitIn? 16 l with
    | some h, some l => readHex (UInt8.ofNat (16 * h + l) :: acc) rest
    | _, _ => none

/-- Two lowercase digits a byte. -/
def toHex (bytes : Bytes) : String :=
  String.ofList (bytes.flatMap fun b => [hexDigit (b.toNat / 16), hexDigit (b.toNat % 16)])

def ofHex? (text : String) : Option Bytes := readHex [] text.toList

/-- The value with the most significant byte first. -/
def toNat (bytes : Bytes) : Nat := bytes.foldl (fun n b => 256 * n + b.toNat) 0

/-- The lowest `width` bytes of `n`, most significant first. -/
def ofNat : (width n : Nat) → Bytes
  | 0, _ => []
  | width + 1, n => ofNat width (n / 256) ++ [UInt8.ofNat (n % 256)]

/-- As long as the shorter operand. -/
def xor (a b : Bytes) : Bytes := List.zipWith (· ^^^ ·) a b

end Bytes

end CredentialIssuer
