import CredentialIssuer.Settings.Yaml.Text

/-! Reading YAML documents. -/
namespace CredentialIssuer.Settings.Yaml

/-- What stands before a node: a name for it, and a tag. -/
private structure Properties where
  name : Option String := none
  tag : Option String := none

private def Properties.isEmpty (p : Properties) : Bool := p.name.isNone && p.tag.isNone

private def isWordChar (c : Char) : Bool := !isBlank c && !isBreak c && !isFlowMark c

private def properties? (inFlow : Bool) : (fuel : Nat) → Properties → Source →
    Option (Properties × Source)
  | 0, _, _ => none
  | fuel + 1, p, s =>
    let word := (s.rest.drop 1).takeWhile isWordChar
    let after := s.advance (word.length + 1)
    let ends := endsToken after.rest || (inFlow && after.rest.head?.any isFlowMark)
    match s.rest.head? with
    | some '&' =>
      if word.isEmpty || p.name.isSome || !ends then none
      else properties? inFlow fuel { p with name := some (String.ofList word) } after.skipBlanks
    | some '!' =>
      if p.tag.isSome || !ends then none
      else properties? inFlow fuel { p with tag := some (String.ofList word) } after.skipBlanks
    | _ => some (p, s)

/-- Names a node as its properties tell. -/
private def Properties.give (p : Properties) (node : Node) (s : Source) : Node × Source :=
  match p.name with
  | some name => (node, { s with named := (name, node) :: s.named })
  | none => (node, s)

private def Properties.plainScalar (p : Properties) (text : List Char) : Scalar :=
  let text := String.ofList text
  match p.tag with
  | none => .ofPlain text
  | some tag => .ofTagged (if tag.startsWith "!" then some (tag.drop 1).toString else none) text

private def Properties.emptyNode (p : Properties) (s : Source) : Node × Source :=
  p.give (.scalar (p.plainScalar [])) s

/-- The properties of a node that is all there is of the whole. -/
private def own? (whole first : Properties) : Option Properties :=
  if whole.isEmpty then some first else if first.isEmpty then some whole else none

/-- A node within a line or a few, and whether it can be a key there. -/
private structure Simple where
  node : Node
  isLong : Bool
  isQuoted : Bool := false

private def alias? (s : Source) : Option (Simple × Source) := do
  let word := (s.rest.drop 1).takeWhile isWordChar
  let node ← s.named.lookup (String.ofList word)
  some (⟨node, false, false⟩, s.advance (word.length + 1))

/-- A scalar in quotes or without, or the node that has a name. -/
private def simple? (indent : Int) (inFlow : Bool) (p : Properties) (s : Source) :
    Option (Simple × Source) := do
  match s.rest.head? with
  | some '*' => if p.isEmpty then alias? s else none
  | some '"' | some '\'' =>
    let r ← quoted? indent s
    let (node, s) := p.give (.scalar (.text (String.ofList r.text))) r.source
    some (⟨node, r.isLong, true⟩, s)
  | _ =>
    let r ← plain? indent inFlow s
    let (node, s) := p.give (.scalar (p.plainScalar r.text)) r.source
    some (⟨node, r.isLong, false⟩, s)

private def scalar? : Node → Option Scalar
  | .scalar value => some value
  | _ => none

private abbrev Entries := List (Scalar × Node)

/-- No key is given twice. -/
private def add? (key : Scalar) (value : Node) (entries : Entries) : Option Entries :=
  if entries.any (·.1 == key) then none else some (entries ++ [(key, value)])

/-- The next token inside brackets, which stands no further out than the block around them. -/
private def flowNext? (indent : Int) (s : Source) : Option Source := do
  let s ← s.next? true
  if s.isAtEnd || (s.isFresh && (s.column : Int) < indent) then none else some s

private def isFlowEnd (s : Source) : Bool :=
  s.rest.head?.any fun c => c == ',' || c == ']' || c == '\x7d'

/-- The colon after a key; after a quoted one the value may follow at once. -/
private def isFlowColon (isQuoted : Bool) (s : Source) : Bool :=
  match s.rest with
  | ':' :: rest => isQuoted || endsToken rest || rest.head?.any isFlowMark
  | _ => false

mutual

private def flowNode? : (fuel : Nat) → (indent : Int) → Source → Option (Simple × Source)
  | 0, _, _ => none
  | fuel + 1, indent, s => do
    let (p, s) ← properties? true 3 {} s
    let s ← flowNext? indent s
    match s.rest.head? with
    | some '[' =>
      let (node, s) ← flowItems? fuel indent [] (s.advance 1)
      let (node, s) := p.give node s
      some (⟨node, false, true⟩, s)
    | some '\x7b' =>
      let (node, s) ← flowEntries? fuel indent [] (s.advance 1)
      let (node, s) := p.give node s
      some (⟨node, false, true⟩, s)
    | _ =>
      if isFlowEnd s || isFlowColon false s then
        let (node, s) := p.emptyNode s
        some (⟨node, false, false⟩, s)
      else
        let (found, after) ← simple? indent true p s
        if s.isFresh && !found.isQuoted && (s.column : Int) ≤ indent then none
        else some (found, after)

/-- The value after a colon; there may be none. -/
private def flowValue? : (fuel : Nat) → (indent : Int) → Source → Option (Node × Source)
  | 0, _, _ => none
  | fuel + 1, indent, s => do
    let s ← flowNext? indent s
    if isFlowEnd s then some (.scalar .nil, s)
    else
      let (found, s) ← flowNode? fuel indent s
      some (found.node, s)

/-- A key with its value, if it has one. -/
private def flowPair? : (fuel : Nat) → (indent : Int) → Source →
    Option ((Node × Option Node) × Source)
  | 0, _, _ => none
  | fuel + 1, indent, s => do
    let isMarked := s.isAt '?'
    let s ← if isMarked then flowNext? indent (s.advance 1) else some s
    let (key, s) ← flowNode? fuel indent s
    let s ← flowNext? indent s
    if isFlowColon key.isQuoted s && (isMarked || !key.isLong) then
      let (value, s) ← flowValue? fuel indent (s.advance 1)
      some ((key.node, some value), s)
    else some ((key.node, if isMarked then some (.scalar .nil) else none), s)

private def flowItems? : (fuel : Nat) → (indent : Int) → List Node → Source → Option (Node × Source)
  | 0, _, _, _ => none
  | fuel + 1, indent, acc, s => do
    let s ← flowNext? indent s
    if s.rest.head? = some ']' then some (.list acc.reverse, s.advance 1)
    else if isFlowEnd s then none
    else
      let ((key, value), s) ← flowPair? fuel indent s
      let item ← match value with
        | some value => (scalar? key).map fun key => Node.table [(key, value)]
        | none => some key
      let s ← flowNext? indent s
      match s.rest.head? with
      | some ',' => flowItems? fuel indent (item :: acc) (s.advance 1)
      | some ']' => some (.list (item :: acc).reverse, s.advance 1)
      | _ => none

private def flowEntries? : (fuel : Nat) → (indent : Int) → Entries → Source → Option (Node × Source)
  | 0, _, _, _ => none
  | fuel + 1, indent, acc, s => do
    let s ← flowNext? indent s
    if s.rest.head? = some '\x7d' then some (.table acc, s.advance 1)
    else if isFlowEnd s then none
    else
      let ((key, value), s) ← flowPair? fuel indent s
      let acc ← add? (← scalar? key) (value.getD (.scalar .nil)) acc
      let s ← flowNext? indent s
      match s.rest.head? with
      | some ',' => flowEntries? fuel indent acc (s.advance 1)
      | some '\x7d' => some (.table acc, s.advance 1)
      | _ => none

end

/-- A node of a block is not there if what comes next stands no further in. Items may stand right
below the key of their list. -/
private def isAbsent (indent : Int) (isValue : Bool) (s : Source) : Bool :=
  s.isAtEnd || (s.isFresh && ((s.column : Int) < indent
    || ((s.column : Int) = indent && !(isValue && s.isAt '-'))))

mutual

/-- A node below an indentation. Blocks start in a line of their own, or where they may nest. -/
private def node? : (fuel : Nat) → (indent : Int) → (mayNest isValue : Bool) → Source →
    Option (Node × Source)
  | 0, _, _, _, _ => none
  | fuel + 1, indent, mayNest, isValue, s => do
    let s ← s.next? false
    if isAbsent indent isValue s then some (.scalar .nil, s)
    else
      let column := s.column
      let nests := mayNest || s.isFresh
      let (p, after) ← properties? false 3 {} s
      if p.isEmpty then content? fuel indent nests column {} {} s
      else
        let below ← after.next? false
        if below.isFresh || below.rest.isEmpty then
          if isAbsent indent isValue below then some (p.emptyNode below)
          else
            let (first, after) ← properties? false 3 {} below
            content? fuel indent true below.column p first after
        else content? fuel indent nests column {} p after

/-- The properties of the node as a whole, and those of what comes first in it. -/
private def content? : (fuel : Nat) → (indent : Int) → (nests : Bool) → (column : Nat) →
    (whole first : Properties) → Source → Option (Node × Source)
  | 0, _, _, _, _, _, _ => none
  | fuel + 1, indent, nests, column, whole, first, s => do
    if s.isAt '-' then
      if !nests || !first.isEmpty then none
      let (items, s) ← items? fuel column [] s
      some (whole.give (.list items) s)
    else if s.isAt '?' then
      if !nests || !first.isEmpty then none
      let (entries, s) ← entries? fuel column [] { s with isFresh := true }
      some (whole.give (.table entries) s)
    else
      match s.rest.head? with
      | some '|' | some '>' =>
        let r ← block? indent s
        some ((← own? whole first).give (.scalar (.text (String.ofList r.text))) r.source)
      | some '[' | some '\x7b' =>
        let (found, s) ← flowNode? fuel indent s
        if s.skipBlanks.isAt ':' then none
        some ((← own? whole first).give found.node s)
      | _ =>
        let (found, after) ← simple? indent false first s
        if nests && after.skipBlanks.isAt ':' then
          if found.isLong then none
          let (value, after) ← node? fuel column false true (after.skipBlanks.advance 1)
          let (entries, after) ← entries? fuel column [(← scalar? found.node, value)] after
          some (whole.give (.table entries) after)
        else
          -- What is no key is the whole node.
          let (found, after) ← simple? indent false (← own? whole first) s
          some (found.node, after)

/-- Items whose dashes stand at a column, at the first of which the source is. -/
private def items? : (fuel : Nat) → (column : Nat) → List Node → Source →
    Option (List Node × Source)
  | 0, _, _, _ => none
  | fuel + 1, column, acc, s => do
    let (item, s) ← node? fuel column true false (s.advance 1)
    let s ← s.next? false
    if s.isAtEnd || (s.isFresh && s.column < column) then some ((item :: acc).reverse, s)
    else if s.isFresh && s.column = column then
      if s.isAt '-' then items? fuel column (item :: acc) s else some ((item :: acc).reverse, s)
    else none

/-- Entries whose keys stand at a column. -/
private def entries? : (fuel : Nat) → (column : Nat) → Entries → Source → Option (Entries × Source)
  | 0, _, _, _ => none
  | fuel + 1, column, acc, s => do
    let s ← s.next? false
    if s.isAtEnd || (s.isFresh && s.column < column) then some (acc, s)
    else if s.isFresh && s.column = column then
      if s.isAt '?' then
        let (key, s) ← node? fuel column true false (s.advance 1)
        let s ← s.next? false
        let (value, s) ←
          if s.isFresh && s.column = column && s.isAt ':' && !s.isAtEnd then
            node? fuel column true true (s.advance 1)
          else some (.scalar .nil, s)
        entries? fuel column (← add? (← scalar? key) value acc) s
      else
        let (p, s) ← properties? false 3 {} s
        let (key, s) ← simple? column false p s
        if key.isLong || !s.skipBlanks.isAt ':' then none
        let (value, s) ← node? fuel column false true (s.skipBlanks.advance 1)
        entries? fuel column (← add? (← scalar? key.node) value acc) s
    else none

end

/-- Past directives and marks before the document; whether its start was marked, if there is one. -/
private def opened? : (fuel : Nat) → (hasDirective : Bool) → Source → Option (Option Bool × Source)
  | 0, _, _ => none
  | fuel + 1, hasDirective, s => do
    let s ← s.next? false
    if s.isDocumentStart then some (some true, s.advance 3)
    else if s.isDocumentEnd && !hasDirective then opened? fuel false (s.advance 3)
    else if s.isFresh && s.column = 0 && s.rest.head? = some '%' then
      opened? fuel true { s with rest := s.rest.dropWhile (!isBreak ·) }
    else if hasDirective then none
    else if s.rest.isEmpty then some (none, s)
    else some (some false, s)

/-- Nothing but marks of the end follow. -/
private def isClosed : (fuel : Nat) → Source → Bool
  | 0, _ => false
  | fuel + 1, s =>
    match s.next? false with
    | none => false
    | some s => s.rest.isEmpty || (s.isDocumentEnd && isClosed fuel (s.advance 3))

/-- The settings of the one document of a text; a text without documents has none. -/
def read? (text : String) : Option Tree.Entries := do
  let cs := text.toList
  let fuel := 4 * cs.length + 8
  let (document, s) ← opened? fuel false (Source.start cs)
  match document with
  | none => some []
  | some _ =>
    let (node, s) ← node? fuel (-1) false false s
    if !isClosed fuel s then none
    match ← node.toTree? with
    | .table entries => some entries
    | _ => none

end CredentialIssuer.Settings.Yaml
