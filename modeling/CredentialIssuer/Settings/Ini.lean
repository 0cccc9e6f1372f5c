import CredentialIssuer.Settings.Tree
import CredentialIssuer.Text.Segments

/-! Reading INI documents: sections of texts under names. -/
namespace CredentialIssuer.Settings.Ini

private def codePoint? (digits : List Char) : Option Char :=
  (Text.naturalIn? 16 (if digits.head? = some '+' then digits.drop 1 else digits)).bind Text.charOf?

/-- What a backslash and what follows it stand for; before a line end they stand for nothing. -/
private def escape? : List Char → Option (List Char × List Char)
  | '0' :: rest => some (['\x00'], rest)
  | 'a' :: rest => some (['\x07'], rest)
  | 'b' :: rest => some (['\x08'], rest)
  | 't' :: rest => some (['\t'], rest)
  | 'r' :: rest => some (['\r'], rest)
  | 'n' :: rest => some (['\n'], rest)
  | '\n' :: rest => some ([], rest)
  | 'x' :: a :: b :: c :: d :: rest => (codePoint? [a, b, c, d]).map fun c => ([c], rest)
  | 'x' :: _ => none
  | c :: rest => some ([c], rest)
  | [] => none

/-- A text up to a character that ends it, or up to the end of the document. -/
private def textUntil? (isEnd : Char → Bool) (mayEnd : Bool) : (fuel : Nat) → List Char →
    Option (List Char × List Char)
  | 0, _ => none
  | _, [] => if mayEnd then some ([], []) else none
  | fuel + 1, c :: rest =>
    if isEnd c then some ([], c :: rest)
    else do
      let (piece, rest) ← if c = '\\' then escape? rest else some ([c], rest)
      let (text, rest) ← textUntil? isEnd mayEnd fuel rest
      some (piece ++ text, rest)

private def isLineEnd (c : Char) : Bool := c == '\n' || c == '\r'

/-- Quoted texts, and then one to the end of the line. -/
private def pieces? : (fuel : Nat) → List Char → Option (List Char × List Char)
  | 0, _ => none
  | fuel + 1, cs =>
    match cs with
    | [] => some ([], [])
    | c :: rest =>
      if c = '"' ∨ c = '\'' then do
        let (quoted, rest) ← textUntil? (· == c) false (rest.length + 1) rest
        let (text, rest) ← pieces? fuel (rest.drop 1)
        some (quoted ++ text, rest)
      else textUntil? isLineEnd true (cs.length + 1) cs

private def value? (cs : List Char) : Option (List Char × List Char) := do
  let start := cs.dropWhile fun c => Text.isBlank c && !isLineEnd c
  let (text, rest) ← pieces? (start.length + 1) start
  some (Text.trim text, rest)

private structure Section where
  /-- There is none for what stands before all sections. -/
  name : Option String
  entries : Tree.Entries

/-- The last section of a name counts. -/
private def Section.close (s : Section) (document : Tree.Entries) : Tree.Entries :=
  match s.name with
  | some name => Tree.put name (.table s.entries) document
  | none => s.entries

private def afterLine (cs : List Char) : List Char := (cs.dropWhile (· ≠ '\n')).drop 1

/-- Comments fill lines, so they stand at the start of one. -/
private def sections? : (fuel : Nat) → (atStart : Bool) → Section → Tree.Entries → List Char →
    Option Tree.Entries
  | 0, _, _, _, _ => none
  | fuel + 1, atStart, current, document, cs =>
    match cs with
    | [] => some (current.close document)
    | c :: rest =>
      if Text.isBlank c then sections? fuel (c = '\n') current document rest
      else if c = ';' ∨ c = '#' then
        if atStart then sections? fuel true current document (afterLine rest) else none
      else if c = '[' then do
        let (name, rest) ← textUntil? (· == ']') false (rest.length + 1) rest
        let next : Section := ⟨some (String.ofList (Text.trim name)), []⟩
        sections? fuel false next (current.close document) (rest.drop 1)
      else do
        let (key, rest) ← textUntil? (fun c => c == '=' || c == ':') false (cs.length + 1) cs
        let key := Text.trim key
        if key.isEmpty then none
        let (value, rest) ← value? (rest.drop 1)
        let entries := Tree.put (String.ofList key) (.text (String.ofList value)) current.entries
        sections? fuel false { current with entries } document rest

/-- The table that a document spells out. -/
def read? (text : String) : Option Tree.Entries :=
  let cs := text.toList
  sections? (cs.length + 1) true ⟨none, []⟩ [] cs

end CredentialIssuer.Settings.Ini
