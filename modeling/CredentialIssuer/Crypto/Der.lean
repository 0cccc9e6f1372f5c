import CredentialIssuer.Text.Bytes
import CredentialIssuer.Text.Digits

/-! The distinguished encoding of ASN.1 values, as far as keys need it. -/
namespace CredentialIssuer.Der

structure Element where
  tag : UInt8
  content : Bytes
  deriving DecidableEq, Repr

/-- A length in its shortest form, and what follows. -/
private def length? : Bytes → Option (Nat × Bytes)
  | [] => none
  | first :: rest =>
    if first < 0x80 then some (first.toNat, rest)
    else
      let width := first.toNat - 0x80
      let digits := rest.take width
      let n := Bytes.toNat digits
      if width = 0 ∨ 4 < width ∨ digits.length < width ∨ n < 128 ∨ n < 256 ^ (width - 1) then none
      else some (n, rest.drop width)

def element? : Bytes → Option (Element × Bytes)
  | [] => none
  | tag :: rest => do
    let (n, rest) ← length? rest
    if rest.length < n then none else some (⟨tag, rest.take n⟩, rest.drop n)

private def elementsFrom? : (fuel : Nat) → Bytes → Option (List Element)
  | _, [] => some []
  | 0, _ => none
  | fuel + 1, bytes => do
    let (first, rest) ← element? bytes
    let others ← elementsFrom? fuel rest
    some (first :: others)

def elements? (bytes : Bytes) : Option (List Element) := elementsFrom? bytes.length bytes

/-- A single element of a tag and nothing after it. -/
def only? (tag : UInt8) (bytes : Bytes) : Option Bytes :=
  match element? bytes with
  | some (e, []) => if e.tag = tag then some e.content else none
  | _ => none

def sequence? (bytes : Bytes) : Option (List Element) := (only? 0x30 bytes).bind elements?

/-- A natural number without needless leading zeros. -/
def Element.natural? (e : Element) : Option Nat :=
  if e.tag ≠ 2 then none
  else
    match e.content with
    | [] => none
    | [0] => some 0
    | 0 :: second :: rest => if second < 0x80 then none else some (Bytes.toNat (second :: rest))
    | first :: rest => if 0x80 ≤ first then none else some (Bytes.toNat (first :: rest))

/-- The algorithm identifier of RSA keys: its object identifier and null. -/
private def rsaAlgorithm : Bytes :=
  [6, 9, 0x2a, 0x86, 0x48, 0x86, 0xf7, 0x0d, 1, 1, 1, 5, 0]

def Element.isRsaAlgorithm (e : Element) : Bool := e.tag == 0x30 && e.content == rsaAlgorithm

end CredentialIssuer.Der
