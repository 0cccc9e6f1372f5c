import CredentialIssuer.Crypto.Rsa
import CredentialIssuer.Crypto.Sha256

/-! RSA encryption with optimal asymmetric padding, over SHA-256 and the empty label. -/
namespace CredentialIssuer.Oaep

def hashLength : Nat := 32

def labelHash : Bytes := Sha256.digest []

/-- The first `length` bytes of the hashes of seed and counter. -/
def mask (seed : Bytes) (length : Nat) : Bytes :=
  (((List.range ((length + hashLength - 1) / hashLength)).flatMap fun n =>
    Sha256.digest (seed ++ Bytes.ofNat 4 n)).take length)

/-- The longest message in a block of `size` bytes. -/
def capacity (size : Nat) : Nat := size - 2 * hashLength - 2

def pad (size : Nat) (seed message : Bytes) : Bytes :=
  let block := labelHash ++ List.replicate (capacity size - message.length) 0 ++ 1 :: message
  let covered := Bytes.xor block (mask seed block.length)
  0 :: Bytes.xor seed (mask covered hashLength) ++ covered

/-- Zeros and a one come before the message. -/
def afterMarker? (bytes : Bytes) : Option Bytes :=
  match bytes.dropWhile (· == 0) with
  | 1 :: message => some message
  | _ => none

def unpad? : Bytes → Option Bytes
  | 0 :: rest =>
    let covered := rest.drop hashLength
    let seed := Bytes.xor (rest.take hashLength) (mask covered hashLength)
    let block := Bytes.xor covered (mask seed covered.length)
    if block.take hashLength = labelHash then afterMarker? (block.drop hashLength) else none
  | _ => none

/-- The seed is 32 random bytes. -/
def encrypt? (key : Rsa.PublicKey) (seed message : Bytes) : Option Bytes :=
  if capacity key.size < message.length ∨ key.size < 2 * hashLength + 2 then none
  else some (Bytes.ofNat key.size (key.apply (Bytes.toNat (pad key.size seed message))))

def decrypt? (key : Rsa.PrivateKey) (ciphertext : Bytes) : Option Bytes :=
  let size := key.size
  let n := Bytes.toNat ciphertext
  if ciphertext.length ≠ size ∨ key.modulus ≤ n ∨ size < 2 * hashLength + 2 then none
  else unpad? (Bytes.ofNat size (key.apply n))

end CredentialIssuer.Oaep
