import CredentialIssuer.Crypto.Aes
import CredentialIssuer.Text.Digits

/-! Authenticated encryption in Galois/counter mode over a cipher of 16-byte blocks. -/
namespace CredentialIssuer.Gcm

/-- The reduction polynomial, its lowest coefficient in the highest bit. -/
private def reduction : Nat := 0xe1 * 2 ^ 120

private def timesFrom : (bits : Nat) → (x v z : Nat) → Nat
  | 0, _, _, z => z
  | bits + 1, x, v, z =>
    let z := if x.testBit bits then z ^^^ v else z
    let v := if v % 2 = 1 then (v / 2) ^^^ reduction else v / 2
    timesFrom bits x v z

/-- The product in the field of 2 ^ 128 elements. -/
def times (x y : Nat) : Nat := timesFrom 128 x y 0

def blocksOf : (count : Nat) → Bytes → List Bytes
  | 0, _ => []
  | count + 1, bytes => bytes.take 16 :: blocksOf count (bytes.drop 16)

def blockCount (bytes : Bytes) : Nat := (bytes.length + 15) / 16

private def zeroPadded (block : Bytes) : Bytes := block ++ List.replicate (16 - block.length) 0

private def absorb (h : Nat) (acc : Nat) (bytes : Bytes) : Nat :=
  (blocksOf (blockCount bytes) bytes).foldl
    (fun acc block => times (acc ^^^ Bytes.toNat (zeroPadded block)) h) acc

/-- The hash of additional data and ciphertext under a hash key. -/
def hash (h : Nat) (extra ciphertext : Bytes) : Nat :=
  let acc := absorb h (absorb h 0 extra) ciphertext
  times (acc ^^^ (8 * extra.length * 2 ^ 64 + 8 * ciphertext.length)) h

def counterBlock (nonce : Bytes) (n : Nat) : Bytes := nonce ++ Bytes.ofNat 4 n

/-- The key stream that starts at a counter, as long as the message. -/
def cover (cipher : Bytes → Bytes) (nonce : Bytes) : (counter : Nat) → List Bytes → Bytes
  | _, [] => []
  | counter, block :: rest =>
    Bytes.xor block (cipher (counterBlock nonce counter)) ++ cover cipher nonce (counter + 1) rest

def coverAll (cipher : Bytes → Bytes) (nonce message : Bytes) : Bytes :=
  cover cipher nonce 2 (blocksOf (blockCount message) message)

def tagLength : Nat := 16
def nonceLength : Nat := 12

/-- The tag of a ciphertext. -/
def tag (cipher : Bytes → Bytes) (nonce extra ciphertext : Bytes) : Bytes :=
  let h := Bytes.toNat (cipher (List.replicate 16 0))
  Bytes.xor (Bytes.ofNat 16 (hash h extra ciphertext)) (cipher (counterBlock nonce 1))

/-- Ciphertext and tag. -/
def encrypt (cipher : Bytes → Bytes) (nonce extra message : Bytes) : Bytes × Bytes :=
  let ciphertext := coverAll cipher nonce message
  (ciphertext, tag cipher nonce extra ciphertext)

/-- The message, if the tag is right. -/
def decrypt? (cipher : Bytes → Bytes) (nonce extra ciphertext expected : Bytes) : Option Bytes :=
  if tag cipher nonce extra ciphertext = expected then some (coverAll cipher nonce ciphertext)
  else none

end CredentialIssuer.Gcm
