import CredentialIssuer.Json.Token

/-! Reading JSON: a machine that takes one token at a time and keeps the open arrays and objects
on a stack. -/
namespace CredentialIssuer.Json

/-- An open array or object with what it holds so far, last first. -/
inductive Frame where
  | array (items : List Json)
  | object (members : List (Option String × Json)) (name : Option String)
  deriving Repr

/-- What may come next. -/
inductive ReaderState where
  | value (stack : List Frame)
  | firstItem (stack : List Frame)
  | firstName (stack : List Frame)
  | nextName (members : List (Option String × Json)) (stack : List Frame)
  | colon (members : List (Option String × Json)) (name : Option String) (stack : List Frame)
  | done (value : Json) (stack : List Frame)
  deriving Repr

def named? : List (Option String × Json) → Option Members
  | [] => some []
  | (none, _) :: _ => none
  | (some name, value) :: rest => (named? rest).map ((name, value) :: ·)

def closeObject (members : List (Option String × Json)) : Json :=
  match named? members.reverse with
  | some members => .object members
  | none => .unreadable

def begin? (stack : List Frame) : Token → Option ReaderState
  | .null => some (.done .null stack)
  | .bool b => some (.done (.bool b) stack)
  | .number (some n) => some (.done (.number n) stack)
  | .number none => some (.done .unreadable stack)
  | .string (some s) => some (.done (.string s) stack)
  | .string none => some (.done .unreadable stack)
  | .beginArray => some (.firstItem stack)
  | .beginObject => some (.firstName stack)
  | _ => none

/-- One token further. -/
def ReaderState.step? : ReaderState → Token → Option ReaderState
  | .value stack, token => begin? stack token
  | .firstItem stack, .endArray => some (.done (.array []) stack)
  | .firstItem stack, token => begin? (.array [] :: stack) token
  | .firstName stack, .endObject => some (.done (.object []) stack)
  | .firstName stack, .string name => some (.colon [] name stack)
  | .nextName members stack, .string name => some (.colon members name stack)
  | .colon members name stack, .colon => some (.value (.object members name :: stack))
  | .done v (.array items :: stack), .comma => some (.value (.array (v :: items) :: stack))
  | .done v (.array items :: stack), .endArray =>
    some (.done (.array (v :: items).reverse) stack)
  | .done v (.object members name :: stack), .comma =>
    some (.nextName ((name, v) :: members) stack)
  | .done v (.object members name :: stack), .endObject =>
    some (.done (closeObject ((name, v) :: members)) stack)
  | _, _ => none

/-- The value that a sequence of tokens spells out. -/
def ofTokens? (tokens : List Token) : Option Json :=
  match tokens.foldlM ReaderState.step? (.value []) with
  | some (.done value []) => some value
  | _ => none

def readSymbols? (symbols : List Utf8.Symbol) : Option Json := (tokens? symbols).bind ofTokens?

def read? (text : String) : Option Json := readSymbols? (text.toList.map some)

def readBytes? (bytes : Bytes) : Option Json := readSymbols? (Utf8.symbols bytes)

end CredentialIssuer.Json
