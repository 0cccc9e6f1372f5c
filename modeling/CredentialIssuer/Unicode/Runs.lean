import CredentialIssuer.Text.Digits
import CredentialIssuer.Text.Segments

/-! Properties of characters, told by the lengths of runs of code points from zero on. -/
namespace CredentialIssuer.Unicode

/-- The words of all lines. -/
def words (table : List String) : List (List Char) :=
  table.flatMap fun line => Text.segments ' ' line.toList

/-- A code point in base sixteen. -/
def codePoint (word : List Char) : Nat := (Text.naturalIn? 16 word).getD 0

/-- Lengths of runs, by turns outside and inside a set. -/
def setRuns (table : List String) : List Nat := (words table).map Text.ofDigits

def inRuns : List Nat → Nat → Bool
  | outside :: inside :: rest, n =>
    if n < outside then false
    else if n < outside + inside then true
    else inRuns rest (n - outside - inside)
  | _, _ => false

/-- Lengths of runs, each before the word for what its characters are. -/
def classRuns {α : Type} (ofWord : List Char → α) (table : List String) : List (Nat × α) :=
  pairUp (words table)
where
  pairUp : List (List Char) → List (Nat × α)
    | length :: word :: rest => (Text.ofDigits length, ofWord word) :: pairUp rest
    | _ => []

/-- What is told of a code point, or what holds after the last run. -/
def classAt {α : Type} (otherwise : α) : List (Nat × α) → Nat → α
  | (length, what) :: rest, n => if n < length then what else classAt otherwise rest (n - length)
  | [], _ => otherwise

end CredentialIssuer.Unicode
