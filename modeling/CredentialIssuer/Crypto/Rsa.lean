import CredentialIssuer.Crypto.Der
import CredentialIssuer.Crypto.Pem
import CredentialIssuer.Crypto.Sha256
import CredentialIssuer.Text.Digits

/-! RSA keys: their documents, the conditions they meet, the two operations, and signatures over
SHA-256 with fixed padding. -/
namespace CredentialIssuer

namespace Rsa

/-- `base ^ exponent` modulo `modulus`. -/
def powMod (base exponent modulus : Nat) : Nat :=
  if exponent = 0 then 1 % modulus
  else
    let half := powMod (base * base % modulus) (exponent / 2) modulus
    if exponent % 2 = 1 then base * half % modulus else half
termination_by exponent

structure PublicKey where
  modulus : Nat
  exponent : Nat
  deriving DecidableEq, Repr

structure PrivateKey extends PublicKey where
  privateExponent : Nat
  primes : Nat × Nat
  deriving DecidableEq, Repr

namespace PublicKey

/-- The length of the modulus in bytes. -/
def size (key : PublicKey) : Nat := key.modulus.log2 / 8 + 1

/-- An odd modulus of at most 4096 bits and an odd exponent below it of at most 33 bits. -/
def isSound (key : PublicKey) : Bool :=
  key.modulus < 2 ^ 4096 && key.modulus % 2 == 1 && key.exponent < key.modulus
    && key.exponent % 2 == 1 && 2 ≤ key.exponent && key.exponent < 2 ^ 33

/-- Encryption and the check of signatures. -/
def apply (key : PublicKey) (n : Nat) : Nat := powMod n key.exponent key.modulus

private def ofElements? : List Der.Element → Option PublicKey
  | [n, e] => do
    let key : PublicKey := ⟨← n.natural?, ← e.natural?⟩
    if key.isSound then some key else none
  | _ => none

private def bitString? (e : Der.Element) : Option Bytes :=
  match e.tag, e.content with
  | 3, 0 :: bytes => some bytes
  | _, _ => none

/-- A key with the name of its algorithm in front. -/
def ofPem? (text : String) : Option PublicKey := do
  let [algorithm, key] ← Der.sequence? (← Pem.read? "PUBLIC KEY" text) | none
  if algorithm.isRsaAlgorithm then ofElements? (← Der.sequence? (← bitString? key)) else none

end PublicKey

namespace PrivateKey

def invertsFor (key : PrivateKey) (prime : Nat) : Bool :=
  key.exponent * key.privateExponent % (prime - 1) == 1 % (prime - 1)

/-- The modulus is the product of the primes, and the exponents undo each other. -/
def isSound (key : PrivateKey) : Bool :=
  key.toPublicKey.isSound && 2 ≤ key.primes.1 && 2 ≤ key.primes.2
    && key.primes.1 * key.primes.2 == key.modulus
    && key.invertsFor key.primes.1 && key.invertsFor key.primes.2

/-- Decryption and signing. -/
def apply (key : PrivateKey) (n : Nat) : Nat := powMod n key.privateExponent key.modulus

/-- Version 0, modulus, exponents, primes, and three numbers that follow from them. -/
def ofElements? (parts : List Der.Element) : Option PrivateKey := do
  let [0, n, e, d, p, q, _, _, _] ← parts.mapM Der.Element.natural? | none
  let key : PrivateKey := ⟨⟨n, e⟩, d, (p, q)⟩
  if key.isSound then some key else none

def ofDer? (bytes : Bytes) : Option PrivateKey := (Der.sequence? bytes).bind ofElements?

private def isAttributes (e : Der.Element) : Bool := e.tag == 0xa0

private def isPublicPart (e : Der.Element) : Bool := e.tag == 0x81

/-- Attributes may follow the key, and in version 1 its public part does. -/
private def extrasFit (version : Nat) (extras : List Der.Element) : Bool :=
  match version, extras.dropWhile isAttributes with
  | 0, [] => true
  | 1, [last] => isPublicPart last
  | _, _ => false

/-- A key with the name of its algorithm in front. -/
def ofWrapped? (bytes : Bytes) : Option PrivateKey := do
  let version :: algorithm :: key :: extras ← Der.sequence? bytes | none
  if extrasFit (← version.natural?) extras && algorithm.isRsaAlgorithm && key.tag == 4 then
    ofDer? key.content
  else none

/-- The label tells which of two documents holds the key. -/
def ofPem? (text : String) : Option PrivateKey :=
  ((Pem.read? "PRIVATE KEY" text).bind ofWrapped?).or
    ((Pem.read? "RSA PRIVATE KEY" text).bind ofDer?)

end PrivateKey

end Rsa

namespace RsaSignature

/-- The name of the hash function, as it stands before a hash. -/
def hashName : Bytes :=
  [0x30, 0x31, 0x30, 0x0d, 6, 9, 0x60, 0x86, 0x48, 1, 0x65, 3, 4, 2, 1, 5, 0, 4, 0x20]

/-- The block that is signed: ones, the name of the hash function, and the hash. -/
def block (size : Nat) (message : Bytes) : Bytes :=
  let tail := hashName ++ Sha256.digest message
  0 :: 1 :: List.replicate (size - tail.length - 3) 0xff ++ 0 :: tail

def sign (key : Rsa.PrivateKey) (message : Bytes) : Bytes :=
  Bytes.ofNat key.size (key.apply (Bytes.toNat (block key.size message)))

def verify (key : Rsa.PublicKey) (message signature : Bytes) : Bool :=
  let n := Bytes.toNat signature
  signature.length == key.size && n < key.modulus
    && Bytes.ofNat key.size (key.apply n) == block key.size message

end RsaSignature

end CredentialIssuer
