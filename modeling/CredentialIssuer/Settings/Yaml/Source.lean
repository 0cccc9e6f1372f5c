import CredentialIssuer.Settings.Yaml.Node

/-! A place in a YAML document. -/
namespace CredentialIssuer.Settings.Yaml

structure Source where
  rest : List Char
  column : Nat
  /-- Only white space stands before it in its line. -/
  isFresh : Bool
  /-- The nodes that have been given a name. -/
  named : List (String × Node)

def isBlank (c : Char) : Bool := c == ' ' || c == '\t'

def isBreak (c : Char) : Bool := c == '\n' || c == '\r'

/-- White space or the end follows. -/
def endsToken (cs : List Char) : Bool := cs.head?.all fun c => isBlank c || isBreak c

def isFlowMark (c : Char) : Bool := ",[]\x7b\x7d".toList.contains c

def afterBreak : List Char → List Char
  | '\r' :: '\n' :: rest => rest
  | _ :: rest => rest
  | [] => []

namespace Source

def start (cs : List Char) : Source := ⟨cs, 0, true, []⟩

/-- Further on in the line. -/
def advance (s : Source) (n : Nat) : Source :=
  { s with rest := s.rest.drop n, column := s.column + n, isFresh := false }

/-- At the start of the line that the rest is. -/
def atLine (s : Source) (rest : List Char) : Source :=
  { s with rest := rest, column := 0, isFresh := true }

/-- The next token, past white space and comments, before which comments need a blank. No tab
indents a token of a block. -/
def next? (s : Source) (inFlow : Bool) : Option Source := go (s.rest.length + 1) s
where
  go : (fuel : Nat) → Source → Option Source
    | 0, s => some s
    | fuel + 1, s =>
      let blanks := s.rest.takeWhile isBlank
      let after := s.rest.drop blanks.length
      match after with
      | [] => some { s with rest := [], column := s.column + blanks.length }
      | c :: _ =>
        if isBreak c then go fuel (s.atLine (afterBreak after))
        else if c = '#' ∧ (s.isFresh ∨ !blanks.isEmpty) then
          go fuel { s with rest := after.dropWhile (!isBreak ·) }
        else if s.isFresh ∧ !inFlow ∧ blanks.contains '\t' then none
        else some { s with rest := after, column := s.column + blanks.length }

private def isLineOf (mark : String) (s : Source) : Bool :=
  s.column == 0 && s.isFresh && mark.toList.isPrefixOf s.rest && endsToken (s.rest.drop 3)

/-- Where a document starts. -/
def isDocumentStart (s : Source) : Bool := s.isLineOf "---"

def isDocumentEnd (s : Source) : Bool := s.isLineOf "..."

/-- Nothing more of the document. -/
def isAtEnd (s : Source) : Bool := s.rest.isEmpty || s.isDocumentStart || s.isDocumentEnd

/-- A mark that white space follows. -/
def isAt (s : Source) (mark : Char) : Bool :=
  s.rest.head? == some mark && endsToken (s.rest.drop 1)

def skipBlanks (s : Source) : Source := s.advance (s.rest.takeWhile isBlank).length

end Source

end CredentialIssuer.Settings.Yaml
