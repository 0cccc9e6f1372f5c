import CredentialIssuer.Settings.Tree

/-! TOML documents while they are read: tables that remember how they came about, since that
decides what may still be added to them. -/
namespace CredentialIssuer.Settings.Toml

inductive Origin where
  /-- Named on the way to another table. -/
  | implied
  /-- Opened by a header of its own. -/
  | headed
  /-- Named in a key with dots. -/
  | dotted
  deriving DecidableEq, Repr

inductive Node where
  | leaf (value : Tree)
  | table (origin : Origin) (children : List (String × Node))
  | tables (items : List (List (String × Node)))
  deriving Repr

abbrev Children := List (String × Node)

/-- Changes what is under a name, or adds to the end what is made of nothing. -/
private def at? (name : String) (change : Option Node → Option Node) : Children → Option Children
  | [] => (change none).map fun node => [(name, node)]
  | (n, node) :: rest =>
    if n = name then (change (some node)).map fun changed => (n, changed) :: rest
    else (at? name change rest).map ((n, node) :: ·)

private def changeLast? (change : Children → Option Children) (items : List Children) :
    Option (List Children) :=
  match items.getLast? with
  | none => none
  | some last => (change last).map fun changed => items.dropLast ++ [changed]

/-- Goes down a path that is made where it is not there, to the table of its last name. -/
private def below? (path : List String) (change : Children → Option Children) :
    Children → Option Children :=
  match path with
  | [] => change
  | name :: rest => at? name fun
    | none => (below? rest change []).map (.table .implied)
    | some (.table origin children) => (below? rest change children).map (.table origin)
    | some (.tables items) => (changeLast? (below? rest change) items).map .tables
    | some (.leaf _) => none

private def openTable? : Option Node → Option Node
  | none => some (.table .headed [])
  | some (.table .implied children) => some (.table .headed children)
  | _ => none

private def addTable? : Option Node → Option Node
  | none => some (.tables [[]])
  | some (.tables items) => some (.tables (items ++ [[]]))
  | _ => none

/-- Opens a table by its header; no table is opened twice. -/
def openHeader? (path : List String) (name : String) (root : Children) : Option Children :=
  below? path (at? name openTable?) root

/-- Opens one more table of a list. -/
def openListHeader? (path : List String) (name : String) (root : Children) : Option Children :=
  below? path (at? name addTable?) root

/-- Keys with dots go through tables that have no header of their own. -/
private def assignFrom? (path : List String) (name : String) (value : Tree) :
    Children → Option Children :=
  match path with
  | [] => at? name fun
    | none => some (.leaf value)
    | some _ => none
  | step :: rest => at? step fun
    | none => (assignFrom? rest name value []).map (.table .dotted)
    | some (.table .headed _) => none
    | some (.table origin children) => (assignFrom? rest name value children).map (.table origin)
    | some _ => none

/-- Assigns a value in the table that was opened last. -/
def assign? (header path : List String) (name : String) (value : Tree) (root : Children) :
    Option Children :=
  below? header (assignFrom? path name value) root

mutual

def Node.toTree : Node → Tree
  | .leaf value => value
  | .table _ children => .table (childTrees children)
  | .tables items => .list (itemTrees items)

def childTrees : List (String × Node) → List (String × Tree)
  | [] => []
  | (name, node) :: rest => (name, node.toTree) :: childTrees rest

def itemTrees : List (List (String × Node)) → List Tree
  | [] => []
  | children :: rest => .table (childTrees children) :: itemTrees rest

end

end CredentialIssuer.Settings.Toml
