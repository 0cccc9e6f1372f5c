import CredentialIssuer.Settings.Tree
import CredentialIssuer.Unicode.Letter

/-! Reading RON documents. The names of structures say nothing here: fields make a table, and
other content makes a list. -/
namespace CredentialIssuer.Settings.Ron

private def isSpace (c : Char) : Bool := c == ' ' || c == '\t' || c == '\n' || c == '\r'

/-- What follows a comment that goes on to its closing mark; comments may be nested. -/
private def afterComment? : (depth : Nat) → List Char → Option (List Char)
  | 0, '*' :: '/' :: rest => some rest
  | depth + 1, '*' :: '/' :: rest => afterComment? depth rest
  | depth, '/' :: '*' :: rest => afterComment? (depth + 1) rest
  | depth, _ :: rest => afterComment? depth rest
  | _, [] => none

/-- White space and comments. -/
private def skip : (fuel : Nat) → List Char → List Char
  | 0, cs => cs
  | fuel + 1, cs =>
    match cs.dropWhile isSpace with
    | '/' :: '/' :: rest => skip fuel (rest.dropWhile (· ≠ '\n'))
    | '/' :: '*' :: rest =>
      match afterComment? 0 rest with
      | some after => skip fuel after
      | none => '/' :: '*' :: rest
    | rest => rest

private def next (cs : List Char) : List Char := skip (cs.length + 1) cs

private def isNameStart (c : Char) : Bool := Unicode.isLetter c || c == '_'

private def isNameChar (c : Char) : Bool := isNameStart c || Unicode.isNamePart c

/-- What a number or a raw name is made of. -/
private def isWordChar (c : Char) : Bool :=
  c.isAlphanum || c == '_' || c == '.' || c == '+' || c == '-'

private def name? (cs : List Char) : Option (String × List Char) :=
  match cs with
  | 'r' :: '#' :: rest =>
    let name := rest.takeWhile isWordChar
    if name.isEmpty then none else some (String.ofList name, rest.drop name.length)
  | 'r' :: '"' :: _ => none
  | c :: rest =>
    if isNameStart c then
      some (String.ofList (c :: rest.takeWhile isNameChar), rest.dropWhile isNameChar)
    else none
  | [] => none

/-- A character and what follows the escape that spells it. -/
private def escape? : List Char → Option (Char × List Char)
  | '"' :: rest => some ('"', rest)
  | '\'' :: rest => some ('\'', rest)
  | '\\' :: rest => some ('\\', rest)
  | 'n' :: rest => some ('\n', rest)
  | 'r' :: rest => some ('\r', rest)
  | 't' :: rest => some ('\t', rest)
  | '0' :: rest => some ('\x00', rest)
  | 'x' :: a :: b :: rest => (Text.naturalIn? 16 [a, b]).map fun n => (Char.ofNat n, rest)
  | 'u' :: '\x7b' :: rest => do
    let digits := rest.takeWhile (· ≠ '\x7d')
    if 6 < digits.length then none
    let c ← (Text.naturalIn? 16 digits).bind Text.charOf?
    some (c, rest.drop (digits.length + 1))
  | _ => none

private def text? : (fuel : Nat) → List Char → Option (List Char × List Char)
  | 0, _ => none
  | _, [] => none
  | _, '"' :: rest => some ([], rest)
  | fuel + 1, '\\' :: rest => do
    let (c, rest) ← escape? rest
    let (text, rest) ← text? fuel rest
    some (c :: text, rest)
  | fuel + 1, c :: rest => (text? fuel rest).map fun (text, rest) => (c :: text, rest)

/-- A text that ends at a quote with as many hashes as stood before it. -/
private def rawText? (hashes : Nat) : List Char → Option (List Char × List Char)
  | [] => none
  | c :: rest =>
    if c = '"' ∧ (rest.take hashes) = List.replicate hashes '#' then some ([], rest.drop hashes)
    else (rawText? hashes rest).map fun (text, rest) => (c :: text, rest)

private def character? : List Char → Option (Char × List Char)
  | '\\' :: rest => do
    let (c, '\'' :: rest) ← escape? rest | none
    some (c, rest)
  | c :: '\'' :: rest => some (c, rest)
  | _ => none

private def unsigned? (cs : List Char) : Option Nat :=
  match cs with
  | '0' :: 'x' :: digits => Text.naturalIn? 16 digits
  | '0' :: 'o' :: digits => Text.naturalIn? 8 digits
  | '0' :: 'b' :: digits => Text.naturalIn? 2 digits
  | digits => Text.naturalIn? 10 digits

private def integer? (cs : List Char) : Option Tree := do
  let n : Int ← match cs with
    | '-' :: rest => (unsigned? rest).map fun n => -(n : Int)
    | '+' :: rest => (unsigned? rest).map fun n => (n : Int)
    | rest => (unsigned? rest).map fun n => (n : Int)
  Tree.ofInt? n

/-- Digits may be parted by underscores. -/
private def number? (cs : List Char) : Option (Tree × List Char) := do
  let word := cs.takeWhile isWordChar
  let digits := word.filter (· ≠ '_')
  let value ← (integer? digits).or
    (if digits.any fun c => c == '.' || c == 'e' || c == 'E' then
      (Extended.ofChars? digits).map .float else none)
  some (value, cs.drop word.length)

/-- Whether what stands in parentheses begins with the name of a field. -/
private def hasFields (cs : List Char) : Bool :=
  match name? (next cs) with
  | some (_, rest) => (next rest).head? == some ':'
  | none => false

private def keyText? : Tree → Option String
  | .text s => some s
  | _ => none

mutual

private def value? : (fuel : Nat) → List Char → Option (Tree × List Char)
  | 0, _ => none
  | fuel + 1, cs =>
    match cs with
    | '[' :: rest => items? fuel ']' [] rest
    | '\x7b' :: rest => members? fuel [] rest
    | '(' :: rest => content? fuel rest
    | '"' :: rest => (text? cs.length rest).map fun (s, rest) => (.text (String.ofList s), rest)
    | '\'' :: rest => (character? rest).map fun (c, rest) => (.text (String.singleton c), rest)
    | _ =>
      let hashes := ((cs.drop 1).takeWhile (· = '#')).length
      if cs.head? = some 'r' ∧ (cs.drop (hashes + 1)).head? = some '"' then
        (rawText? hashes (cs.drop (hashes + 2))).map fun (s, rest) =>
          (.text (String.ofList s), rest)
      else
        match name? cs with
        | some (name, rest) => named? fuel name rest
        | none => number? cs

private def named? : (fuel : Nat) → String → List Char → Option (Tree × List Char)
  | 0, _, _ => none
  | fuel + 1, name, cs =>
    if name = "true" then some (.bool true, cs)
    else if name = "false" then some (.bool false, cs)
    else if name = "None" then some (.nil, cs)
    else if name = "inf" then some (.float (.infinite false), cs)
    else if name = "NaN" then some (.float .notANumber, cs)
    else
      match name == "Some", next cs with
      | true, '(' :: rest => do
        let (value, rest) ← value? fuel (next rest)
        let ')' :: rest := next rest | none
        some (value, rest)
      | true, _ => none
      | false, '(' :: rest => content? fuel rest
      | false, _ => some (.nil, cs)

/-- What stands in parentheses. -/
private def content? : (fuel : Nat) → List Char → Option (Tree × List Char)
  | 0, _ => none
  | fuel + 1, cs =>
    match next cs with
    | ')' :: rest => some (.nil, rest)
    | cs => if hasFields cs then fields? fuel [] cs else items? fuel ')' [] cs

private def items? : (fuel : Nat) → (closing : Char) → List Tree → List Char →
    Option (Tree × List Char)
  | 0, _, _, _ => none
  | fuel + 1, closing, acc, cs => do
    let cs := next cs
    if cs.head? = some closing then some (.list acc.reverse, cs.drop 1)
    else
      let (item, rest) ← value? fuel cs
      let rest := next rest
      if rest.head? = some ',' then items? fuel closing (item :: acc) (rest.drop 1)
      else if rest.head? = some closing then some (.list (item :: acc).reverse, rest.drop 1)
      else none

private def fields? : (fuel : Nat) → Tree.Entries → List Char → Option (Tree × List Char)
  | 0, _, _ => none
  | fuel + 1, acc, cs => do
    match next cs with
    | ')' :: rest => some (.table acc, rest)
    | cs =>
      let (name, rest) ← name? cs
      let ':' :: rest := next rest | none
      let (value, rest) ← value? fuel (next rest)
      let acc := Tree.put name value acc
      match next rest with
      | ',' :: rest => fields? fuel acc rest
      | ')' :: rest => some (.table acc, rest)
      | _ => none

private def members? : (fuel : Nat) → Tree.Entries → List Char → Option (Tree × List Char)
  | 0, _, _ => none
  | fuel + 1, acc, cs => do
    match next cs with
    | '\x7d' :: rest => some (.table acc, rest)
    | cs =>
      let (key, rest) ← value? fuel cs
      let ':' :: rest := next rest | none
      let (value, rest) ← value? fuel (next rest)
      let acc := Tree.put (← keyText? key) value acc
      match next rest with
      | ',' :: rest => members? fuel acc rest
      | '\x7d' :: rest => some (.table acc, rest)
      | _ => none

end

private def knownExtensions : List String :=
  ["unwrap_newtypes", "implicit_some", "unwrap_variant_newtypes", "explicit_struct_names"]

/-- Names of extensions, with commas between them, up to the closing mark. -/
private def extensions? : (fuel : Nat) → List Char → Option (List Char)
  | 0, _ => none
  | fuel + 1, cs => do
    let (name, rest) ← name? (next cs)
    if !knownExtensions.contains name then none
    match next rest with
    | ')' :: rest => some rest
    | ',' :: rest =>
      match next rest with
      | ')' :: rest => some rest
      | rest => extensions? fuel rest
    | _ => none

/-- The value, past the extensions that a document asks for: they do not bear on it. -/
private def body? : (fuel : Nat) → List Char → Option (List Char)
  | 0, _ => none
  | fuel + 1, cs => do
    let '#' :: rest := next cs | some (next cs)
    let '!' :: rest := next rest | none
    let '[' :: rest := next rest | none
    let ("enable", rest) ← name? (next rest) | none
    let '(' :: rest := next rest | none
    let ']' :: rest := next (← extensions? rest.length rest) | none
    body? fuel rest

/-- The value that a document spells out. -/
def read? (text : String) : Option Tree := do
  let cs := text.toList
  let body ← body? (cs.length + 1) cs
  let (value, rest) ← value? (4 * cs.length + 4) body
  if (next rest).isEmpty then some value else none

end CredentialIssuer.Settings.Ron
