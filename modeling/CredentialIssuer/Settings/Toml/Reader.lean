import CredentialIssuer.Settings.Toml.Document
import CredentialIssuer.Settings.Toml.Scalar

/-! Reading TOML documents. -/
namespace CredentialIssuer.Settings.Toml

private def isBlankChar (c : Char) : Bool := c == ' ' || c == '\t'

private def skipBlanks (cs : List Char) : List Char := cs.dropWhile isBlankChar

private def isForbidden (c : Char) : Bool := (c < ' ' && c ≠ '\t') || c == '\x7f'

private def afterNewline? : List Char → Option (List Char)
  | '\n' :: rest => some rest
  | '\r' :: '\n' :: rest => some rest
  | _ => none

/-- A comment goes to the end of its line. -/
private def skipComment? (cs : List Char) : Option (List Char) :=
  match cs with
  | '#' :: rest =>
    let after := rest.dropWhile fun c => c ≠ '\n' && c ≠ '\r'
    if (rest.takeWhile fun c => c ≠ '\n' && c ≠ '\r').any isForbidden then none else some after
  | _ => some cs

private def endOfLine? (cs : List Char) : Option (List Char) := do
  let rest ← skipComment? (skipBlanks cs)
  match rest with
  | [] => some []
  | _ => afterNewline? rest

/-- Blanks, comments and line ends. -/
private def skipSpace? : (fuel : Nat) → List Char → Option (List Char)
  | 0, cs => some cs
  | fuel + 1, cs => do
    let rest ← skipComment? (skipBlanks cs)
    match afterNewline? rest with
    | some rest => skipSpace? fuel rest
    | none => some rest

private def codePoint? (width : Nat) (cs : List Char) : Option (Char × List Char) := do
  let digits := cs.take width
  if digits.length < width then none
  let c ← (Text.naturalIn? 16 digits).bind Text.charOf?
  some (c, cs.drop width)

private def escape? (cs : List Char) : Option (Char × List Char) :=
  match cs with
  | 'b' :: rest => some ('\x08', rest)
  | 't' :: rest => some ('\t', rest)
  | 'n' :: rest => some ('\n', rest)
  | 'f' :: rest => some ('\x0c', rest)
  | 'r' :: rest => some ('\r', rest)
  | 'e' :: rest => some ('\x1b', rest)
  | '"' :: rest => some ('"', rest)
  | '\\' :: rest => some ('\\', rest)
  | 'x' :: rest => codePoint? 2 rest
  | 'u' :: rest => codePoint? 4 rest
  | 'U' :: rest => codePoint? 8 rest
  | _ => none

private def basicText? : (fuel : Nat) → List Char → List Char → Option (List Char × List Char)
  | 0, _, _ => none
  | fuel + 1, acc, cs =>
    match cs with
    | '"' :: rest => some (acc.reverse, rest)
    | '\\' :: rest => do
      let (c, rest) ← escape? rest
      basicText? fuel (c :: acc) rest
    | c :: rest => if isForbidden c then none else basicText? fuel (c :: acc) rest
    | [] => none

private def literalText? (cs : List Char) : Option (List Char × List Char) :=
  match cs.dropWhile (· ≠ '\'') with
  | [] => none
  | _ :: rest =>
    let text := cs.takeWhile (· ≠ '\'')
    if text.any isForbidden then none else some (text, rest)

private def quotesAhead (quote : Char) (cs : List Char) : Nat := (cs.takeWhile (· = quote)).length

/-- Three quotes end a text of several lines; one or two more before them belong to it. -/
private def closing? (quote : Char) (cs : List Char) : Option (List Char × List Char) :=
  let n := quotesAhead quote cs
  if n < 3 then none
  else
    let extra := min (n - 3) 2
    some (List.replicate extra quote, cs.drop (extra + 3))

/-- Blanks and line ends; a carriage return alone is neither. -/
private def skipAllSpace : List Char → List Char
  | '\r' :: '\n' :: rest => skipAllSpace rest
  | c :: rest => if isBlankChar c || c == '\n' then skipAllSpace rest else c :: rest
  | [] => []

private def isLineContinuation (cs : List Char) : Bool :=
  (afterNewline? (skipBlanks cs)).isSome

/-- Line ends stand in the text as they are written. -/
private def longText? (quote : Char) : (fuel : Nat) → List Char → List Char →
    Option (List Char × List Char)
  | 0, _, _ => none
  | fuel + 1, acc, cs =>
    match closing? quote cs with
    | some (extra, rest) => some (acc.reverse ++ extra, rest)
    | none =>
      match cs with
      | [] => none
      | '\n' :: rest => longText? quote fuel ('\n' :: acc) rest
      | '\r' :: '\n' :: rest => longText? quote fuel ('\n' :: '\r' :: acc) rest
      | '\\' :: rest =>
        if quote ≠ '"' then longText? quote fuel ('\\' :: acc) rest
        else if isLineContinuation rest then longText? quote fuel acc (skipAllSpace rest)
        else do
          let (c, rest) ← escape? rest
          longText? quote fuel (c :: acc) rest
      | c :: rest => if isForbidden c then none else longText? quote fuel (c :: acc) rest

private def dropFirstNewline (cs : List Char) : List Char := (afterNewline? cs).getD cs

private def text? (cs : List Char) : Option (List Char × List Char) :=
  match cs with
  | '"' :: '"' :: '"' :: rest => longText? '"' (rest.length + 1) [] (dropFirstNewline rest)
  | '"' :: rest => basicText? (rest.length + 1) [] rest
  | '\'' :: '\'' :: '\'' :: rest => longText? '\'' (rest.length + 1) [] (dropFirstNewline rest)
  | '\'' :: rest => literalText? rest
  | _ => none

private def isBareChar (c : Char) : Bool := c.isAlphanum || c == '-' || c == '_'

private def keyPart? (cs : List Char) : Option (String × List Char) :=
  match cs with
  | '"' :: rest => (basicText? (rest.length + 1) [] rest).map fun (k, r) => (String.ofList k, r)
  | '\'' :: rest => (literalText? rest).map fun (k, r) => (String.ofList k, r)
  | _ =>
    let name := cs.takeWhile isBareChar
    if name.isEmpty then none else some (String.ofList name, cs.dropWhile isBareChar)

/-- How many names a key may have, and how far values may be nested. -/
def mostLevels : Nat := 80

/-- At most so many names: those before the last dot, and the one after it. -/
private def names? : (most : Nat) → List Char → Option ((List String × String) × List Char)
  | 0, _ => none
  | most + 1, cs => do
    let (name, rest) ← keyPart? (skipBlanks cs)
    match skipBlanks rest with
    | '.' :: rest => do
      let ((path, last), rest) ← names? most rest
      some ((name :: path, last), rest)
    | rest => some (([], name), rest)

private def key? (cs : List Char) : Option ((List String × String) × List Char) :=
  names? mostLevels cs

private def isScalarChar (c : Char) : Bool :=
  c.isAlphanum || c == '_' || c == '+' || c == '-' || c == '.' || c == ':'

/-- A blank may stand between a date and a time. -/
private def scalarToken (cs : List Char) : List Char × List Char :=
  let first := cs.takeWhile isScalarChar
  let rest := cs.dropWhile isScalarChar
  match rest with
  | ' ' :: c :: _ =>
    if (Date.ofChars? first).isSome ∧ Text.isDigit c then
      let time := (rest.drop 1).takeWhile isScalarChar
      (first ++ ' ' :: time, (rest.drop 1).dropWhile isScalarChar)
    else (first, rest)
  | _ => (first, rest)

mutual

private def value? : (fuel levels : Nat) → List Char → Option (Tree × List Char)
  | 0, _, _ => none
  | fuel + 1, levels, cs =>
    match cs, levels with
    | '[' :: rest, levels + 1 => items? fuel levels [] rest
    | '\x7b' :: rest, levels + 1 => inline? fuel levels [] rest
    | '"' :: _, _ => (text? cs).map fun (s, rest) => (.text (String.ofList s), rest)
    | '\'' :: _, _ => (text? cs).map fun (s, rest) => (.text (String.ofList s), rest)
    | _, _ => do
      let (token, rest) := scalarToken cs
      some (← scalar? token, rest)

/-- Items with commas between them, one of which may stand at the end. -/
private def items? : (fuel levels : Nat) → List Tree → List Char → Option (Tree × List Char)
  | 0, _, _, _ => none
  | fuel + 1, levels, acc, cs => do
    match ← skipSpace? cs.length cs with
    | ']' :: rest => some (.list acc.reverse, rest)
    | cs =>
      let (item, rest) ← value? fuel levels cs
      match ← skipSpace? rest.length rest with
      | ',' :: rest => items? fuel levels (item :: acc) rest
      | ']' :: rest => some (.list (item :: acc).reverse, rest)
      | _ => none

/-- Assignments with commas between them, one of which may stand at the end. -/
private def inline? : (fuel levels : Nat) → Children → List Char → Option (Tree × List Char)
  | 0, _, _, _ => none
  | fuel + 1, levels, acc, cs => do
    match ← skipSpace? cs.length cs with
    | '\x7d' :: rest => some (.table (childTrees acc), rest)
    | cs =>
      let ((path, name), rest) ← key? cs
      let '=' :: rest := skipBlanks rest | none
      let (value, rest) ← value? fuel levels (skipBlanks rest)
      let acc ← assign? [] path name value acc
      match ← skipSpace? rest.length rest with
      | ',' :: rest => inline? fuel levels acc rest
      | '\x7d' :: rest => some (.table (childTrees acc), rest)
      | _ => none

end

/-- What has been read, and the table that is open. -/
private structure State where
  root : Children
  header : List String

private def listHeader? (s : State) (cs : List Char) : Option (State × List Char) := do
  let ((path, name), rest) ← key? cs
  let ']' :: ']' :: rest := skipBlanks rest | none
  some (⟨← openListHeader? path name s.root, path ++ [name]⟩, ← endOfLine? rest)

private def header? (s : State) (cs : List Char) : Option (State × List Char) := do
  let ((path, name), rest) ← key? cs
  let ']' :: rest := skipBlanks rest | none
  some (⟨← openHeader? path name s.root, path ++ [name]⟩, ← endOfLine? rest)

private def assignment? (s : State) (cs : List Char) : Option (State × List Char) := do
  let ((path, name), rest) ← key? cs
  let '=' :: rest := skipBlanks rest | none
  let (value, rest) ← value? (2 * cs.length + 2) mostLevels (skipBlanks rest)
  some ({ s with root := ← assign? s.header path name value s.root }, ← endOfLine? rest)

private def statements? : (fuel : Nat) → State → List Char → Option State
  | 0, s, _ => some s
  | fuel + 1, s, cs => do
    let cs ← skipSpace? cs.length cs
    match cs with
    | [] => some s
    | '[' :: '[' :: rest => do
      let (s, rest) ← listHeader? s rest
      statements? fuel s rest
    | '[' :: rest => do
      let (s, rest) ← header? s rest
      statements? fuel s rest
    | _ => do
      let (s, rest) ← assignment? s cs
      statements? fuel s rest

/-- The table that a document spells out. -/
def read? (text : String) : Option Tree.Entries :=
  let cs := text.toList
  (statements? (cs.length + 1) ⟨[], []⟩ cs).map fun s => childTrees s.root

end CredentialIssuer.Settings.Toml
