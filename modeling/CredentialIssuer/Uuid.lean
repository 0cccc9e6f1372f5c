import CredentialIssuer.Text.Bytes

/-! Universally unique identifiers: sixteen bytes, written in five groups of lowercase digits. -/
namespace CredentialIssuer

structure Uuid where
  bytes : Bytes
  length_eq : bytes.length = 16
  deriving DecidableEq, Repr

namespace Uuid

def ofBytes? (bytes : Bytes) : Option Uuid :=
  if h : bytes.length = 16 then some ⟨bytes, h⟩ else none

/-- Sixteen random bytes, six bits of which tell that they are random. -/
def ofEntropy? (bytes : Bytes) : Option Uuid :=
  ofBytes? (bytes.mapIdx fun i b =>
    if i = 6 then (b &&& 0x0f) ||| 0x40 else if i = 8 then (b &&& 0x3f) ||| 0x80 else b)

def grouped (cs : List Char) : List Char :=
  cs.take 8 ++ '-' :: (cs.drop 8).take 4 ++ '-' :: (cs.drop 12).take 4
    ++ '-' :: (cs.drop 16).take 4 ++ '-' :: cs.drop 20

def print (u : Uuid) : String := String.ofList (grouped (Bytes.toHex u.bytes).toList)

def ofSimple? (cs : List Char) : Option Uuid :=
  (Bytes.ofHex? (String.ofList cs)).bind ofBytes?

/-- Hyphens stand after 8, 12, 16 and 20 digits and nowhere else. -/
def ofHyphenated? (cs : List Char) : Option Uuid :=
  let digits := cs.filter (· ≠ '-')
  if digits.length = 32 ∧ cs = grouped digits then ofSimple? digits else none

def urnMark : List Char := "urn:uuid:".toList

/-- Hyphenated, with no hyphens at all, hyphenated in braces, or hyphenated after `urn:uuid:`. -/
def read? (text : String) : Option Uuid :=
  let cs := text.toList
  if cs.length = 32 then ofSimple? cs
  else if cs.length = 36 then ofHyphenated? cs
  else if cs.length = 38 ∧ cs.head? = some '\x7b' ∧ cs.getLast? = some '\x7d' then
    ofHyphenated? (cs.drop 1).dropLast
  else if cs.length = 45 ∧ (cs.take 9).map Char.toLower = urnMark then ofHyphenated? (cs.drop 9)
  else none

end Uuid

end CredentialIssuer
