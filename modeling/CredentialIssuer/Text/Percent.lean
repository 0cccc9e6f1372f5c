import CredentialIssuer.Text.Utf8

/-! Percent encoding, and the form encoding of name and value pairs built on it. -/
namespace CredentialIssuer

namespace Percent

def upperHex (n : Nat) : Char :=
  if n < 10 then Char.ofNat (48 + n) else Char.ofNat (55 + n)

def encodeByte (b : UInt8) : List Char :=
  ['%', upperHex (b.toNat / 16), upperHex (b.toNat % 16)]

def charBytes (c : Char) : Bytes := Utf8.encode (String.singleton c)

/-- Characters of the set and all outside ASCII become the escapes of their bytes. -/
def encode (inSet : Char → Bool) (cs : List Char) : List Char :=
  cs.flatMap fun c =>
    if inSet c || 128 ≤ c.toNat then (charBytes c).flatMap encodeByte else [c]

def hexValue (b : UInt8) : Option Nat :=
  let n := b.toNat
  if 48 ≤ n ∧ n ≤ 57 then some (n - 48)
  else if 97 ≤ n ∧ n ≤ 102 then some (n - 87)
  else if 65 ≤ n ∧ n ≤ 70 then some (n - 55)
  else none

/-- A percent sign without two hexadecimal digits stands for itself. -/
def decode : Bytes → Bytes
  | 37 :: h :: l :: rest =>
    match hexValue h, hexValue l with
    | some h, some l => UInt8.ofNat (16 * h + l) :: decode rest
    | _, _ => 37 :: decode (h :: l :: rest)
  | b :: rest => b :: decode rest
  | [] => []

end Percent

namespace Form

def isPlain (c : Char) : Bool :=
  c.isAlphanum || c == '*' || c == '-' || c == '.' || c == '_'

/-- A space becomes a plus sign; letters, digits and `*-._` stay; all else is escaped. -/
def encodeText (cs : List Char) : List Char :=
  cs.flatMap fun c =>
    if c = ' ' then ['+'] else if isPlain c then [c] else Percent.encode (fun _ => true) [c]

def isSeparator (b : UInt8) : Bool := b == 38

def cut (p : UInt8 → Bool) (bytes : Bytes) : Bytes × Bytes :=
  (bytes.takeWhile fun b => !p b, (bytes.dropWhile fun b => !p b).drop 1)

def pieces : (count : Nat) → Bytes → List Bytes
  | 0, _ => []
  | count + 1, bytes =>
    let (piece, rest) := cut isSeparator bytes
    piece :: pieces count rest

/-- Bytes that are no text are replaced, one sign for each damaged sequence. -/
def textOf (bytes : Bytes) : String := String.ofList (Utf8.lossy bytes)

def decodeText (bytes : Bytes) : String :=
  textOf (Percent.decode (bytes.map fun b => if b = 43 then 32 else b))

/-- The pairs of a query; empty pieces between separators are skipped. -/
def decode (bytes : Bytes) : List (String × String) :=
  ((pieces (bytes.count 38 + 1) bytes).filter fun piece => !piece.isEmpty).map fun piece =>
    let (name, value) := cut (· == 61) piece
    (decodeText name, decodeText value)

/-- One pair as text. -/
def pair (name value : String) : List Char :=
  encodeText name.toList ++ '=' :: encodeText value.toList

end Form

end CredentialIssuer
