import CredentialIssuer.Settings.Environment
import CredentialIssuer.Text.Segments

/-! Files of environment variables, one assignment a line. Values may be quoted, may refer to
other variables, and may go over several lines inside quotes. -/
namespace CredentialIssuer.Settings.DotEnv

/-- Where a line ends: not inside quotes, nor after a backslash or a blank. -/
private inductive LineState where
  | plain
  | blank
  | escape
  | weak
  | weakEscape
  | strong
  | strongEscape
  | comment
  deriving DecidableEq

private def lineStep (state : LineState) (c : Char) : LineState :=
  match state with
  | .blank =>
    if c = '#' then .comment else if c = '\\' then .escape else if c = '"' then .weak
    else if c = '\'' then .strong else .plain
  | .escape => .plain
  | .plain =>
    if Text.isBlank c && c ≠ '\n' && c ≠ '\r' then .blank else if c = '\\' then .escape
    else if c = '"' then .weak else if c = '\'' then .strong else .plain
  | .weak => if c = '\\' then .weakEscape else if c = '"' then .plain else .weak
  | .weakEscape => .weak
  | .strong => if c = '\\' then .strongEscape else if c = '\'' then .plain else .strong
  | .strongEscape => .strong
  | .comment => .comment

/-- What of a line counts, and the state after it; a comment ends what counts. -/
private def scanLine : LineState → List Char → List Char → LineState × List Char
  | state, acc, [] => (state, acc.reverse)
  | state, acc, c :: rest =>
    match lineStep state c with
    | .comment => (.comment, acc.reverse)
    | next => scanLine next (c :: acc) rest

private def withoutLineEnd (line : List Char) : List Char :=
  match line.reverse with
  | '\n' :: '\r' :: rest => rest.reverse
  | '\n' :: rest => rest.reverse
  | _ => line

private def isRemark (line : List Char) : Bool := (line.dropWhile Text.isBlank).head? == some '#'

/-- Joins the lines of one assignment; nothing if a quote is left open. -/
private def logicalLines : LineState → List Char → List (List Char) → List (Option (List Char))
  | .plain, [], [] => []
  | _, _, [] => [none]
  | state, pending, line :: rest =>
    if isRemark (pending ++ line) then some [] :: logicalLines .plain [] rest
    else
      match scanLine state [] line with
      | (.comment, counted) => some (pending ++ counted) :: logicalLines .plain [] rest
      | (.plain, _) => some (withoutLineEnd (pending ++ line)) :: logicalLines .plain [] rest
      | (next, _) => logicalLines next (pending ++ line) rest

private def splitLines : List Char → List Char → List (List Char)
  | [], [] => []
  | acc, [] => [acc.reverse]
  | acc, '\n' :: rest => ('\n' :: acc).reverse :: splitLines [] rest
  | acc, c :: rest => splitLines (c :: acc) rest

/-- What a value is read with: variables that are set, and those assigned before. -/
private structure Scope where
  bindings : Environment.Bindings
  assigned : Environment.Bindings

private def Scope.valueOf (s : Scope) (name : List Char) : List Char :=
  let name := String.ofList name
  match Environment.get? s.bindings name, Environment.get? s.assigned name with
  | some value, _ => value.toList
  | none, some value => value.toList
  | none, none => []

private inductive Mode where
  | plain
  | escape (weak : Bool)
  | strong
  | weak
  | name (weak : Bool) (letters : List Char)
  | bracedName (weak : Bool) (letters : List Char)
  | ended
  deriving DecidableEq

private def quoteMode (weak : Bool) : Mode := if weak then .weak else .plain

private def isNameLetter (c : Char) : Bool := c.isAlphanum || (128 ≤ c.toNat && !Text.isBlank c)

/-- One character further, with what has been put out so far, last first. -/
private def valueStep? (s : Scope) (mode : Mode) (out : List Char) (c : Char) :
    Option (Mode × List Char) :=
  match mode with
  | .ended => if c = ' ' ∨ c = '\t' then some (.ended, out) else none
  | .escape weak =>
    if c = 'n' then some (quoteMode weak, '\n' :: out)
    else if ['\\', '\'', '"', '$', ' '].contains c then some (quoteMode weak, c :: out)
    else none
  | .strong => if c = '\'' then some (.plain, out) else some (.strong, c :: out)
  | .name weak letters =>
    if isNameLetter c then some (.name weak (c :: letters), out)
    else if c = '\x7b' ∧ letters.isEmpty then some (.bracedName weak [], out)
    else
      let out := (s.valueOf letters.reverse).reverse ++ out
      if c = '$' then some (.name weak [], out) else some (quoteMode weak, c :: out)
  | .bracedName weak letters =>
    if c = '\x7d' then some (quoteMode weak, (s.valueOf letters.reverse).reverse ++ out)
    else some (.bracedName weak (c :: letters), out)
  | .weak =>
    if c = '$' then some (.name true [], out)
    else if c = '"' then some (.plain, out)
    else if c = '\\' then some (.escape true, out)
    else some (.weak, c :: out)
  | .plain =>
    if c = '$' then some (.name false [], out)
    else if c = '\'' then some (.strong, out)
    else if c = '"' then some (.weak, out)
    else if c = '\\' then some (.escape false, out)
    else if c = ' ' ∨ c = '\t' then some (.ended, out)
    else some (.plain, c :: out)

private def valueFrom? (s : Scope) : Mode → List Char → List Char → Option (List Char)
  | .ended, out, '#' :: _ => some out.reverse
  | mode, out, c :: rest => do
    let (mode, out) ← valueStep? s mode out c
    valueFrom? s mode out rest
  | mode, out, [] =>
    match mode with
    | .strong | .weak | .escape true | .bracedName _ _ => none
    | .name true _ => none
    | .name false letters => some (out.reverse ++ s.valueOf letters.reverse)
    | .plain | .escape false | .ended => some out.reverse

private def isKeyStart (c : Char) : Bool := c.isAlpha || c == '_'

private def isKeyChar (c : Char) : Bool := c.isAlphanum || c == '_' || c == '.'

private def key? (cs : List Char) : Option (String × List Char) :=
  match cs with
  | c :: _ =>
    if isKeyStart c then
      some (String.ofList (cs.takeWhile isKeyChar), (cs.dropWhile isKeyChar).dropWhile Text.isBlank)
    else none
  | [] => none

private def afterEquals? : List Char → Option (List Char)
  | '=' :: rest => some (rest.dropWhile Text.isBlank)
  | _ => none

/-- The name and the text of its value; a name may follow the word export. -/
private def assignment? (cs : List Char) : Option (String × List Char) := do
  let (name, rest) ← key? cs
  match afterEquals? rest with
  | some value => some (name, value)
  | none =>
    if name = "export" then
      let (name, rest) ← key? rest
      some (name, ← afterEquals? rest)
    else none

private def isNothing (cs : List Char) : Bool := cs.isEmpty || cs.head? == some '#'

/-- An assigned variable stays as it was if it is set already. -/
private def Scope.assign (s : Scope) (name value : String) : Scope :=
  let assigned := (name, value) :: s.assigned
  match Environment.get? s.bindings name with
  | some _ => { s with assigned := assigned }
  | none => ⟨s.bindings ++ [(name, value)], assigned⟩

private def applyLine? (s : Scope) (line : List Char) : Option Scope :=
  let cs := line.dropWhile Text.isBlank
  if isNothing cs then some s
  else do
    let (name, text) ← assignment? cs
    let value ← if isNothing text then some [] else valueFrom? s .plain [] text
    some (s.assign name (String.ofList value))

/-- Stops at the first line that is none, and keeps what was assigned before it. -/
private def applyLines (s : Scope) : List (Option (List Char)) → Scope × Bool
  | [] => (s, true)
  | none :: _ => (s, false)
  | some line :: rest =>
    match applyLine? s line with
    | some s => applyLines s rest
    | none => (s, false)

private def dropMark : List Char → List Char
  | '\ufeff' :: rest => rest
  | cs => cs

/-- The variables with those of a file added, and whether the file could be read to its end. -/
def apply (text : String) (bindings : Environment.Bindings) : Environment.Bindings × Bool :=
  let lines := logicalLines .plain [] (splitLines [] (dropMark text.toList))
  let (s, whole) := applyLines ⟨bindings, []⟩ lines
  (s.bindings, whole)

end CredentialIssuer.Settings.DotEnv
