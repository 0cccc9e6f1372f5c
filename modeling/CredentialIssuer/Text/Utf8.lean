import CredentialIssuer.Text.Bytes

/-! Texts as bytes. Reading refuses overlong forms, surrogates and truncated sequences. -/
namespace CredentialIssuer.Utf8

def encode (text : String) : Bytes := text.toUTF8.data.toList

def decode? (bytes : Bytes) : Option String := String.fromUTF8? ⟨bytes.toArray⟩

/-- A text is read back from its bytes. -/
theorem decode_encode (text : String) : decode? (encode text) = some text := by
  have h : (⟨(encode text).toArray⟩ : ByteArray) = text.toUTF8 := by
    simp [encode]
  rw [decode?, h, String.fromUTF8?]
  exact dif_pos text.isValidUTF8

/-- A character, or nothing for a byte that is part of none. -/
abbrev Symbol := Option Char

/-- The character that bytes begin with, and how many of them it takes. -/
def leading? (bytes : Bytes) : Option (Char × Nat) :=
  [1, 2, 3, 4].findSome? fun k =>
    match (decode? (bytes.take k)).map String.toList with
    | some [c] => some (c, k)
    | _ => none

/-- What characters there are among bytes that are no text. -/
def damaged : Bytes → List Symbol
  | [] => []
  | first :: rest =>
    match leading? (first :: rest) with
    | some (c, k) => some c :: damaged (rest.drop (k - 1))
    | none => none :: damaged rest
termination_by bytes => bytes.length
decreasing_by all_goals simp only [List.length_cons, List.length_drop]; omega

def symbols (bytes : Bytes) : List Symbol :=
  match decode? bytes with
  | some text => text.toList.map some
  | none => damaged bytes

/-- The bytes of a sequence that starts like a character and breaks off. -/
private def brokenLength : Bytes → Nat
  | a :: b :: rest =>
    let a := a.toNat
    let b := b.toNat
    let tail := 0x80 ≤ b ∧ b < 0xC0
    let second :=
      if 0xC2 ≤ a ∧ a < 0xE0 then False
      else if a = 0xE0 then 0xA0 ≤ b ∧ b < 0xC0
      else if a = 0xED then 0x80 ≤ b ∧ b < 0xA0
      else if 0xE1 ≤ a ∧ a < 0xF0 then tail
      else if a = 0xF0 then 0x90 ≤ b ∧ b < 0xC0
      else if a = 0xF4 then 0x80 ≤ b ∧ b < 0x90
      else if 0xF1 ≤ a ∧ a < 0xF4 then tail
      else False
    if second then
      match rest with
      | c :: _ => if 0xF0 ≤ a ∧ 0x80 ≤ c.toNat ∧ c.toNat < 0xC0 then 3 else 2
      | [] => 2
    else 1
  | _ => 1

private def repaired : Bytes → List Char
  | [] => []
  | first :: rest =>
    match leading? (first :: rest) with
    | some (c, k) => c :: repaired (rest.drop (k - 1))
    | none => '\ufffd' :: repaired (rest.drop (brokenLength (first :: rest) - 1))
termination_by bytes => bytes.length
decreasing_by all_goals simp only [List.length_cons, List.length_drop]; omega

/-- The text with a replacement character for each broken sequence. -/
def lossy (bytes : Bytes) : List Char :=
  match decode? bytes with
  | some text => text.toList
  | none => repaired bytes

/-- How many bytes the damaged sequence has, or nothing if the text merely breaks off in it. -/
private def damagedLength? (bytes : Bytes) : Option Nat :=
  let n := brokenLength bytes
  let first := (bytes.headD 0).toNat
  if n = bytes.length ∧ 0xC2 ≤ first ∧ first ≤ 0xF4 then none else some n

private def defectFrom : (index : Nat) → Bytes → Option (Nat × Option Nat)
  | _, [] => none
  | index, first :: rest =>
    match leading? (first :: rest) with
    | some (_, k) => defectFrom (index + k) (rest.drop (k - 1))
    | none => some (index, damagedLength? (first :: rest))
termination_by _ bytes => bytes.length
decreasing_by all_goals simp only [List.length_cons, List.length_drop]; omega

/-- Where bytes first fail to be a text, and in how many bytes if the text goes on after them. -/
def defect? (bytes : Bytes) : Option (Nat × Option Nat) := defectFrom 0 bytes

/-- The bytes of a text give its characters, all of them legible. -/
theorem symbols_encode (text : String) : symbols (encode text) = text.toList.map some := by
  rw [symbols, decode_encode]

end CredentialIssuer.Utf8
