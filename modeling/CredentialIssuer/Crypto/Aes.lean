import CredentialIssuer.Text.Bytes

/-! The block cipher AES. The substitution and the mixing of columns come from arithmetic in the
field of 256 elements. -/
namespace CredentialIssuer.Aes

/-- Multiplication by the element of value two. -/
private def double (x : UInt8) : UInt8 := (x <<< 1) ^^^ (if 128 ≤ x then 0x1b else 0)

private def timesFrom : (bits : Nat) → UInt8 → UInt8 → UInt8
  | 0, _, _ => 0
  | bits + 1, x, y => (if y % 2 = 1 then x else 0) ^^^ timesFrom bits (double x) (y / 2)

/-- The product of two field elements. -/
def times (x y : UInt8) : UInt8 := timesFrom 8 x y

/-- The power `2 ^ n - 2`, which is the inverse for eight bits. -/
private def inverseFrom : (bits : Nat) → UInt8 → UInt8
  | 0, _ => 1
  | bits + 1, x => let square := times x x; times square (inverseFrom bits square)

private def rotateLeft (x n : UInt8) : UInt8 := (x <<< n) ||| (x >>> (8 - n))

/-- Inversion, with zero for zero, and an affine map. -/
def substitute (x : UInt8) : UInt8 :=
  let y := inverseFrom 7 x
  y ^^^ rotateLeft y 1 ^^^ rotateLeft y 2 ^^^ rotateLeft y 3 ^^^ rotateLeft y 4 ^^^ 0x63

private def table : Array UInt8 :=
  ((List.range 256).map fun n => substitute (UInt8.ofNat n)).toArray

private def lookUp (x : UInt8) : UInt8 := table.getD x.toNat 0

/-- Four columns of four bytes. -/
abbrev Block := Bytes

def shiftRows (b : Block) : Block :=
  (List.range 16).map fun i => b.getD ((i + 4 * (i % 4)) % 16) 0

private def mixColumns : Block → Block
  | a :: b :: c :: d :: rest =>
    let a2 := double a
    let b2 := double b
    let c2 := double c
    let d2 := double d
    (a2 ^^^ b2 ^^^ b ^^^ c ^^^ d) :: (a ^^^ b2 ^^^ c2 ^^^ c ^^^ d)
      :: (a ^^^ b ^^^ c2 ^^^ d2 ^^^ d) :: (a2 ^^^ a ^^^ b ^^^ c ^^^ d2) :: mixColumns rest
  | _ => []

/-- Every round key but the first, and the state before each. -/
def encryptRounds : Block → List Block → Block
  | b, [] => b
  | b, [key] => Bytes.xor (shiftRows (b.map lookUp)) key
  | b, key :: keys => encryptRounds (Bytes.xor (mixColumns (shiftRows (b.map lookUp))) key) keys

def rotateWord : Bytes → Bytes
  | a :: rest => rest ++ [a]
  | [] => []

/-- Words of the schedule after those of the key, which is `size` words long; `recent` holds the
last `size` words. -/
def expand (size : Nat) : (left i : Nat) → (constant : UInt8) → List Bytes → List Bytes
  | 0, _, _, _ => []
  | left + 1, i, constant, recent =>
    let last := recent.getLastD []
    let (mixed, constant) :=
      if i % size = 0 then
        (Bytes.xor ((rotateWord last).map lookUp) [constant, 0, 0, 0], double constant)
      else if size > 6 && i % size == 4 then (last.map lookUp, constant)
      else (last, constant)
    let word := Bytes.xor (recent.headD []) mixed
    word :: expand size left (i + 1) constant (recent.drop 1 ++ [word])

def grouped (size : Nat) : (count : Nat) → Bytes → List Bytes
  | 0, _ => []
  | count + 1, bytes => bytes.take size :: grouped size count (bytes.drop size)

/-- The round keys of a key of 16 or 32 bytes. -/
def roundKeys (key : Bytes) : List Block :=
  let size := key.length / 4
  let words := grouped 4 size key
  let all := words ++ expand size (4 * (size + 7) - size) size 1 words
  grouped 16 (size + 7) all.flatten

/-- One block under round keys. -/
def encryptBlock (keys : List Block) (block : Block) : Block :=
  match keys with
  | [] => block
  | first :: rest => encryptRounds (Bytes.xor block first) rest

end CredentialIssuer.Aes
