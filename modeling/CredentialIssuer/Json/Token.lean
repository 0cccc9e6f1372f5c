import CredentialIssuer.Json.Numeral
import CredentialIssuer.Text.Utf8

/-! The tokens of a JSON text. Blanks between them are space, tab, line feed and carriage return. -/
namespace CredentialIssuer.Json

open Utf8 (Symbol)

/-- A string without a text and a number without a value are tokens all the same. -/
inductive Token where
  | beginArray
  | endArray
  | beginObject
  | endObject
  | comma
  | colon
  | null
  | bool (value : Bool)
  | number (value : Option Number)
  | string (value : Option String)
  deriving Repr

def hexDigit? : Symbol → Option Nat
  | none => none
  | some c => Text.digitIn? 16 c

def unit? (a b c d : Symbol) : Option Nat := do
  some (4096 * (← hexDigit? a) + 256 * (← hexDigit? b) + 16 * (← hexDigit? c) + (← hexDigit? d))

def isHigh (unit : Nat) : Bool := 0xD800 ≤ unit && unit < 0xDC00
def isLow (unit : Nat) : Bool := 0xDC00 ≤ unit && unit < 0xE000

def escaped? : Char → Option Char
  | '"' => some '"'
  | '\\' => some '\\'
  | '/' => some '/'
  | 'b' => some '\x08'
  | 'f' => some '\x0c'
  | 'n' => some '\n'
  | 'r' => some '\r'
  | 't' => some '\t'
  | _ => none

/-- The text up to the closing quote. A pair of surrogate escapes is one character; a lone one
leaves the string without a text, as does a byte that is part of no character. -/
def scanString (text : Option (List Char)) : List Symbol → Option (Option String × List Symbol)
  | [] => none
  | some '"' :: rest => some (text.map fun cs => String.ofList cs.reverse, rest)
  | some '\\' :: some 'u' :: a :: b :: c :: d :: rest =>
    match unit? a b c d with
    | none => none
    | some unit =>
      if isHigh unit then
        match rest with
        | some '\\' :: some 'u' :: e :: f :: g :: h :: rest' =>
          match unit? e f g h with
          | none => none
          | some low =>
            if isLow low then
              let c := Char.ofNat (0x10000 + 0x400 * (unit - 0xD800) + (low - 0xDC00))
              scanString (text.map (c :: ·)) rest'
            else scanString none (some '\\' :: some 'u' :: e :: f :: g :: h :: rest')
        | rest => scanString none rest
      else if isLow unit then scanString none rest
      else scanString (text.map (Char.ofNat unit :: ·)) rest
  | some '\\' :: some c :: rest =>
    match escaped? c with
    | none => none
    | some c => scanString (text.map (c :: ·)) rest
  | some c :: rest =>
    if c = '\\' ∨ c < ' ' then none else scanString (text.map (c :: ·)) rest
  | none :: rest => scanString none rest
termination_by input => input.length

/-- A string takes at least the quote at its end. -/
theorem scanString_length {text : Option (List Char)} {input rest : List Symbol}
    {s : Option String} (h : scanString text input = some (s, rest)) :
    rest.length < input.length := by
  fun_induction scanString text input <;> simp_all <;> grind

def isNumeralSymbol : Symbol → Bool
  | some c => isNumeralChar c
  | none => false

def isBlankSymbol : Symbol → Bool
  | some c => c == ' ' || c == '\t' || c == '\n' || c == '\r'
  | none => false

def scanNumber (input : List Symbol) : Option Token :=
  (Numeral.ofChars? ((input.takeWhile isNumeralSymbol).filterMap id)).map fun n =>
    .number n.number?

/-- The tokens in order, after those already found, which stand in reverse. -/
def scan (found : List Token) : List Symbol → Option (List Token)
  | [] => some found.reverse
  | some '[' :: rest => scan (.beginArray :: found) rest
  | some ']' :: rest => scan (.endArray :: found) rest
  | some '\x7b' :: rest => scan (.beginObject :: found) rest
  | some '\x7d' :: rest => scan (.endObject :: found) rest
  | some ',' :: rest => scan (.comma :: found) rest
  | some ':' :: rest => scan (.colon :: found) rest
  | some 'n' :: some 'u' :: some 'l' :: some 'l' :: rest => scan (.null :: found) rest
  | some 't' :: some 'r' :: some 'u' :: some 'e' :: rest => scan (.bool true :: found) rest
  | some 'f' :: some 'a' :: some 'l' :: some 's' :: some 'e' :: rest =>
    scan (.bool false :: found) rest
  | some '"' :: rest =>
    match _h : scanString (some []) rest with
    | none => none
    | some (s, rest') => scan (.string s :: found) rest'
  | c :: rest =>
    if isBlankSymbol c then scan found rest
    else if isNumeralSymbol c then
      match scanNumber (c :: rest) with
      | none => none
      | some token => scan (token :: found) (rest.dropWhile isNumeralSymbol)
    else none
termination_by input => input.length
decreasing_by
  all_goals simp only [List.length_cons]
  all_goals first
    | omega
    | exact Nat.lt_succ_of_le (List.dropWhile_suffix isNumeralSymbol).length_le
    | have shorter := scanString_length _h
      omega

def tokens? (input : List Symbol) : Option (List Token) := scan [] input

end CredentialIssuer.Json
