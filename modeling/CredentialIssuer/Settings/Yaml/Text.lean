import CredentialIssuer.Settings.Yaml.Source

/-! The texts of YAML scalars: without quotes, in quotes, and in blocks of lines. -/
namespace CredentialIssuer.Settings.Yaml

/-- A text, whether it goes over several lines, and what follows. -/
structure Reached where
  text : List Char
  isLong : Bool
  source : Source

/-- Past a line end and the empty lines after it, with the count of line ends. -/
private def breaks : (fuel : Nat) → Source → Nat × Source
  | 0, s => (0, s)
  | fuel + 1, s =>
    let below := s.atLine (afterBreak s.rest)
    let blanks := below.rest.takeWhile isBlank
    let next := { below with rest := below.rest.drop blanks.length, column := blanks.length }
    if next.rest.head?.any isBreak then
      let (n, last) := breaks fuel next
      (n + 1, last)
    else (1, next)

private def folded (count : Nat) : List Char :=
  if count = 1 then [' '] else List.replicate (count - 1) '\n'

/-- A line of text without quotes, up to a comment or to what marks a value. -/
private def plainLine (inFlow afterBlank : Bool) : List Char → List Char
  | [] => []
  | c :: rest =>
    let endsKey := c == ':' && (endsToken rest || (inFlow && rest.head?.any isFlowMark))
    if isBreak c || (c == '#' && afterBlank) || (inFlow && isFlowMark c) || endsKey then []
    else c :: plainLine inFlow (isBlank c) rest

private def withoutFinalBlanks (cs : List Char) : List Char :=
  (cs.reverse.dropWhile isBlank).reverse

/-- Lines that are indented further go on. -/
private def plainFrom (indent : Int) (inFlow : Bool) : (fuel : Nat) → Source → Reached
  | 0, s => ⟨[], false, s⟩
  | fuel + 1, s =>
    let line := withoutFinalBlanks (plainLine inFlow false s.rest)
    let after := s.advance line.length
    let gap := after.skipBlanks
    if !gap.rest.head?.any isBreak then ⟨line, false, after⟩
    else
      let (count, below) := breaks gap.rest.length gap
      let goesOn := !below.isAtEnd && below.rest.head? ≠ some '#'
        && (inFlow || indent < below.column) && !(plainLine inFlow false below.rest).isEmpty
      if goesOn then
        let more := plainFrom indent inFlow fuel below
        ⟨line ++ folded count ++ more.text, true, more.source⟩
      else ⟨line, false, after⟩

private def startsPlain (inFlow : Bool) : List Char → Bool
  | [] => false
  | c :: rest =>
    if c = '-' ∨ c = ':' ∨ c = '?' then !endsToken rest && !(inFlow && rest.head?.any isFlowMark)
    else !isBlank c && !isBreak c && !",[]\x7b\x7d#&*!|>'\"%@\x60".toList.contains c

def plain? (indent : Int) (inFlow : Bool) (s : Source) : Option Reached :=
  if startsPlain inFlow s.rest then some (plainFrom indent inFlow (s.rest.length + 1) s) else none

private def escapes : List (Char × Char) :=
  [('0', '\x00'), ('a', '\x07'), ('b', '\x08'), ('t', '\t'), ('\t', '\t'), ('n', '\n'),
    ('v', '\x0b'), ('f', '\x0c'), ('r', '\r'), ('e', '\x1b'), (' ', ' '), ('"', '"'), ('/', '/'),
    ('\\', '\\'), ('N', '\x85'), ('_', '\xa0'), ('L', '\u2028'), ('P', '\u2029')]

private def escapeWidth? (c : Char) : Option Nat :=
  if c = 'x' then some 2 else if c = 'u' then some 4 else if c = 'U' then some 8 else none

/-- A character and how many characters after the backslash spell it. -/
private def escape? (cs : List Char) : Option (Char × Nat) :=
  match cs with
  | [] => none
  | c :: rest =>
    match escapeWidth? c with
    | some width =>
      if rest.length < width then none
      else ((Text.naturalIn? 16 (rest.take width)).bind Text.charOf?).map fun c => (c, width + 1)
    | none => (escapes.lookup c).map fun c => (c, 1)

/-- Past the end of a line inside quotes: where the text goes on, further in than its block. -/
private def continued? (indent : Int) (s : Source) : Option (Nat × Source) :=
  let (count, below) := breaks s.rest.length s
  if below.isAtEnd || (0 ≤ indent && below.column ≤ indent) then none else some (count, below)

private def quotedFrom? (quote : Char) (indent : Int) : (fuel : Nat) → Source → Option Reached
  | 0, _ => none
  | fuel + 1, s => do
    let blanks := s.rest.takeWhile isBlank
    let along := fun (text : List Char) (long : Bool) (s : Source) =>
      (quotedFrom? quote indent fuel s).map fun r =>
        { r with text := text ++ r.text, isLong := long || r.isLong }
    match s.rest.drop blanks.length with
    | [] => none
    | c :: rest =>
      let here := s.advance blanks.length
      if isBreak c then
        let (count, below) ← continued? indent here
        along (folded count) true below
      else if c = quote then
        if quote = '\'' ∧ rest.head? = some quote then
          along (blanks ++ [quote]) false (here.advance 2)
        else some ⟨blanks, false, here.advance 1⟩
      else if c = '\\' ∧ quote = '"' then
        if rest.head?.any isBreak then
          let (count, below) ← continued? indent (here.advance 1)
          along (blanks ++ List.replicate (count - 1) '\n') true below
        else
          let (c, width) ← escape? rest
          along (blanks ++ [c]) false (here.advance (width + 1))
      else along (blanks ++ [c]) false (here.advance 1)

/-- A text in quotes, at the first of which the source is. -/
def quoted? (indent : Int) (s : Source) : Option Reached :=
  match s.rest with
  | '"' :: _ => quotedFrom? '"' indent (s.rest.length + 1) (s.advance 1)
  | '\'' :: _ => quotedFrom? '\'' indent (s.rest.length + 1) (s.advance 1)
  | _ => none

/-- What becomes of the line ends that a block ends with. -/
private inductive Chomping where
  | strip
  | clip
  | keep
  deriving DecidableEq

private structure BlockStyle where
  isFolded : Bool
  chomping : Chomping := .clip
  /-- How much further in than its parent it stands, if that is told. -/
  depth : Option Nat := none

private def blockStyle? (isFolded : Bool) (marks : List Char) : Option BlockStyle :=
  let chomping? := fun (c : Char) =>
    if c = '-' then some Chomping.strip else if c = '+' then some Chomping.keep else none
  let depth? := fun (c : Char) => if '1' ≤ c ∧ c ≤ '9' then some (c.toNat - 48) else none
  match marks with
  | [] => some ⟨isFolded, .clip, none⟩
  | [c] =>
    match chomping? c, depth? c with
    | some chomping, _ => some ⟨isFolded, chomping, none⟩
    | none, some depth => some ⟨isFolded, .clip, some depth⟩
    | none, none => none
  | [c, d] =>
    match chomping? c, depth? d, depth? c, chomping? d with
    | some chomping, some depth, _, _ => some ⟨isFolded, chomping, some depth⟩
    | _, _, some depth, some chomping => some ⟨isFolded, chomping, some depth⟩
    | _, _, _, _ => none
  | _ => none

private def leadingSpaces (line : List Char) : Nat := (line.takeWhile (· = ' ')).length

/-- The lines of a block and what follows it; a tab is no indentation. -/
private def blockLines? (depth : Nat) : (fuel : Nat) → List Char →
    Option (List (List Char) × List Char)
  | 0, cs => some ([], cs)
  | _, [] => some ([], [])
  | fuel + 1, cs => do
    let line := cs.takeWhile (!isBreak ·)
    let below := afterBreak (cs.drop line.length)
    let content := line.drop (min depth (leadingSpaces line))
    if content.isEmpty || depth ≤ leadingSpaces line then
      let (lines, rest) ← blockLines? depth fuel below
      some (content :: lines, rest)
    else if content.head? = some '\t' then none
    else some ([], cs)

/-- The indentation of the first line that is not empty. -/
private def firstDepth? : (fuel : Nat) → List Char → Option Nat
  | 0, _ => some 0
  | _, [] => some 0
  | fuel + 1, cs =>
    let line := cs.takeWhile (!isBreak ·)
    match line.drop (leadingSpaces line) with
    | [] => firstDepth? fuel (afterBreak (cs.drop line.length))
    | c :: _ => if c = '\t' then none else some (leadingSpaces line)

private def startsBlank (line : List Char) : Bool := line.head?.any isBlank

/-- Joins lines, after one that was indented like text or further and some empty ones. -/
private def joinLines (isFolded : Bool) (before : Option Bool) (empty : Nat) :
    List (List Char) → List Char × Nat
  | [] => ([], empty)
  | line :: rest =>
    if line.isEmpty then joinLines isFolded before (empty + 1) rest
    else
      let gap := match before with
        | none => List.replicate empty '\n'
        | some wasBlank =>
          if isFolded && !wasBlank && !startsBlank line then folded (empty + 1)
          else List.replicate (empty + 1) '\n'
      let (text, final) := joinLines isFolded (some (startsBlank line)) 0 rest
      (gap ++ line ++ text, final)

private def chomped (chomping : Chomping) (text : List Char) (empty : Nat) : List Char :=
  let ending := if text.isEmpty then [] else ['\n']
  match chomping with
  | .strip => text
  | .clip => text ++ ending
  | .keep => text ++ ending ++ List.replicate empty '\n'

/-- A block of lines, at whose mark the source is. -/
def block? (indent : Int) (s : Source) : Option Reached := do
  let mark :: rest := s.rest | none
  let marks := rest.takeWhile fun c => !isBlank c && !isBreak c
  let style ← blockStyle? (mark == '>') marks
  let after ← (s.advance (marks.length + 1)).next? true
  let line := rest.dropWhile (!isBreak ·)
  -- Only a comment may stand in the line of the mark.
  if !after.isFresh && !after.rest.isEmpty then none
  let lines := afterBreak line
  let depth ← match style.depth with
    | some depth => some ((max indent 0).toNat + depth)
    | none => (firstDepth? (lines.length + 1) lines).map fun n => max n (max (indent + 1) 1).toNat
  let (content, below) ← blockLines? depth (lines.length + 1) lines
  let (text, empty) := joinLines style.isFolded none 0 content
  some ⟨chomped style.chomping text empty, true, s.atLine below⟩

end CredentialIssuer.Settings.Yaml
