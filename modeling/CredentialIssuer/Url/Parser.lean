import CredentialIssuer.Url.Basic

/-! Reading absolute URLs. -/
namespace CredentialIssuer.Url

def isTabOrNewline (c : Char) : Bool := c == '\t' || c == '\n' || c == '\r'

def isEdge (c : Char) : Bool := c.toNat ≤ 32

/-- Controls and spaces at the ends go. -/
def trimmed (cs : List Char) : List Char :=
  ((cs.dropWhile isEdge).reverse.dropWhile isEdge).reverse

/-- Tabs and line ends count nowhere, but in a file path one may end a drive. -/
def unbroken (cs : List Char) : List Char := cs.filter fun c => !isTabOrNewline c

def isSchemeChar (c : Char) : Bool := c.isAlphanum || c == '+' || c == '-' || c == '.'

/-- The scheme, lowered, and what follows the colon. -/
def scheme? (cs : List Char) : Option (List Char × List Char) :=
  match cs with
  | first :: _ =>
    if first.isAlpha then
      match cs.dropWhile isSchemeChar with
      | ':' :: rest => some ((cs.takeWhile isSchemeChar).map Char.toLower, rest)
      | _ => none
    else none
  | [] => none

def defaultPort? (scheme : List Char) : Option Nat :=
  if scheme = "http".toList ∨ scheme = "ws".toList then some 80
  else if scheme = "https".toList ∨ scheme = "wss".toList then some 443
  else if scheme = "ftp".toList then some 21
  else none

def isFile (scheme : List Char) : Bool := scheme == "file".toList

/-- Schemes whose hosts are domains and whose paths are never empty. -/
def isSpecial (scheme : List Char) : Bool := isFile scheme || (defaultPort? scheme).isSome

def isQueryEscaped (special : Bool) (c : Char) : Bool :=
  Host.isControl c || " \"#<>".toList.contains c || (special && c == '\'')

def isPathEscaped (c : Char) : Bool :=
  Host.isControl c || " \"<>\x60#?\x7b\x7d".toList.contains c

def isUserinfoEscaped (c : Char) : Bool :=
  isPathEscaped c || "/:;=@[\\]^|".toList.contains c

def isSlash (special : Bool) (c : Char) : Bool := c == '/' || (special && c == '\\')

def endsPath (c : Char) : Bool := c == '?' || c == '#'

def endsAuthority (special : Bool) (c : Char) : Bool := isSlash special c || endsPath c

/-- Query and fragment with their marks. -/
def tail (special : Bool) (cs : List Char) : Option (List Char) × Option (List Char) :=
  let fragmentOf := fun (cs : List Char) => match cs with
    | '#' :: rest => some (Percent.encode isPathEscaped rest)
    | _ => none
  match cs with
  | '?' :: rest =>
    (some (Percent.encode (isQueryEscaped special) (rest.takeWhile (· ≠ '#'))),
      fragmentOf (rest.dropWhile (· ≠ '#')))
  | cs => (none, fragmentOf cs)

def isDot (segment : List Char) : Bool :=
  segment == ['.'] || segment.map Char.toLower == "%2e".toList

def isDoubleDot (segment : List Char) : Bool :=
  ["..", "%2e%2e", "%2e.", ".%2e"].any fun form => segment.map Char.toLower == form.toList

/-- A letter and a colon or bar. -/
def isDriveLetter : List Char → Bool
  | [letter, mark] => letter.isAlpha && (mark == ':' || mark == '|')
  | _ => false

/-- A drive, alone or before a backslash that is part of the segment. -/
def isDriveLike (segment : List Char) : Bool :=
  isDriveLetter (segment.take 2) && (segment.drop 2).head?.all (· == '\\')

/-- Without the last segment, unless it looks like a drive. -/
def shortened (path : List (List Char)) : List (List Char) :=
  match path.getLast? with
  | some last => if isDriveLike last then path else path.dropLast
  | none => path

/-- A drive whose colon a tab or line end follows, and the text after it. -/
def brokenDrive? (segment : List Char) : Option (List Char × List Char) :=
  let below := (segment.dropWhile (· ≠ ':')).drop 1
  match unbroken segment with
  | letter :: ':' :: c :: rest =>
    if letter.isAlpha && below.head?.any isTabOrNewline then some ([letter, ':'], c :: rest)
    else none
  | _ => none

/-- The segments read so far, escaped; `onDrive` once a file path opened with a drive. -/
structure Walk where
  segments : List (List Char)
  onDrive : Bool := false

/-- Dots move up or stay; the last of them leaves an empty segment. -/
def Walk.add (w : Walk) (isLast : Bool) (segment : List Char) : Walk :=
  let ending : List (List Char) := if isLast then [[]] else []
  if isDoubleDot segment then ⟨shortened w.segments ++ ending, w.onDrive⟩
  else if isDot segment then ⟨w.segments ++ ending, w.onDrive⟩
  else ⟨w.segments ++ [segment], w.onDrive⟩

/-- The first segment of a file path may be a drive, and a break may divide it in two. -/
def Walk.addOfFile (w : Walk) (isLast : Bool) (segment : List Char) : Walk :=
  let escape := Percent.encode isPathEscaped
  let text := escape (unbroken segment)
  if w.segments.isEmpty then
    match brokenDrive? segment with
    | some (drive, rest) => ⟨[drive, escape rest], w.onDrive⟩
    | none => if isDriveLetter text then ⟨[text.take 1 ++ [':']], true⟩ else w.add isLast text
  else w.add isLast text

def addAll (add : Walk → Bool → List Char → Walk) (w : Walk) : List (List Char) → Walk
  | [] => w
  | [last] => add w true last
  | segment :: rest => addAll add (add w false segment) rest

def slashSegments (special : Bool) (cs : List Char) : List (List Char) :=
  Text.segments '/' (cs.map fun c => if isSlash special c then '/' else c)

/-- The segments of a text that stands after the first slash. -/
def segmentsOf (scheme cs : List Char) : List (List Char) :=
  let raw := slashSegments (isSpecial scheme) cs
  (addAll Walk.add ⟨[], false⟩ (raw.map (Percent.encode isPathEscaped))).segments

def splitPath (cs : List Char) : List Char × List Char :=
  (cs.takeWhile fun c => !endsPath c, cs.dropWhile fun c => !endsPath c)

/-- A file path loses its leading empty segments. -/
def fileWalk (cs : List Char) : Walk :=
  let w := addAll Walk.addOfFile ⟨[], false⟩ (slashSegments true cs)
  match w.segments.dropWhile List.isEmpty with
  | [] => ⟨[[]], w.onDrive⟩
  | kept => ⟨kept, w.onDrive⟩

def assemble (scheme : List Char) (authority : Option Authority) (path : Path)
    (rest : List Char) : Url :=
  let (query, fragment) := tail (isSpecial scheme) rest
  ⟨scheme, authority, path, query, fragment⟩

/-- What comes before the last at sign, and what comes after it. -/
def splitUserinfo (special : Bool) (cs : List Char) : Option (List Char × List Char) :=
  let authority := cs.takeWhile fun c => !endsAuthority special c
  let host := (authority.reverse.takeWhile (· ≠ '@')).reverse
  if host.length = authority.length then none
  else some (authority.take (authority.length - host.length - 1),
    cs.drop (authority.length - host.length))

/-- Name and password are escaped apart; an empty password has no colon. -/
def userinfoChars (cs : List Char) : List Char :=
  let escape := Percent.encode isUserinfoEscaped
  match Text.splitFirst? ':' cs with
  | none => if cs.isEmpty then [] else escape cs ++ ['@']
  | some (name, []) => if name.isEmpty then [] else escape name ++ ['@']
  | some (name, password) => escape name ++ ':' :: escape password ++ ['@']

def userinfo (special : Bool) (cs : List Char) :
    Except ParseError (List Char × List Char) :=
  match splitUserinfo special cs with
  | none => .ok ([], cs)
  | some ([], rest) =>
    match rest with
    | c :: _ => if endsAuthority special c then .error .emptyHost else .ok ([], rest)
    | [] => .ok ([], [])
  | some (text, rest) => .ok (userinfoChars text, rest)

/-- The host up to a port or the path; a colon in brackets is part of it. -/
def hostText (special inBrackets : Bool) : List Char → List Char
  | [] => []
  | c :: rest =>
    if endsAuthority special c || (c == ':' && !inBrackets) then []
    else
      let inBrackets := if c = '[' then true else if c = ']' then false else inBrackets
      c :: hostText special inBrackets rest

def port (scheme cs : List Char) : Except ParseError (Option Nat × List Char) :=
  match cs with
  | ':' :: rest =>
    let digits := rest.takeWhile Text.isDigit
    let rest := rest.dropWhile Text.isDigit
    let number := Text.ofDigits digits
    if 65535 < number then .error .invalidPort
    else if rest.head?.all fun c => endsAuthority true c then
      .ok (if digits.isEmpty || defaultPort? scheme == some number then none else some number, rest)
    else .error .invalidPort
  | rest => .ok (none, rest)

def afterAuthority (scheme : List Char) (authority : Authority) (cs : List Char) : Url :=
  let (path, rest) := splitPath cs
  let segments :=
    if isSpecial scheme then
      match path with
      | c :: below => if isSlash true c then segmentsOf scheme below else segmentsOf scheme path
      | [] => [[]]
    else
      match path with
      | [] => []
      | '/' :: below => segmentsOf scheme below
      | path => segmentsOf scheme path
  assemble scheme (some authority) (.segments segments) rest

/-- After the two slashes that announce an authority. -/
def withAuthority (scheme cs : List Char) : Except ParseError Url := do
  let special := isSpecial scheme
  let (info, cs) ← userinfo special cs
  let text := hostText special false cs
  let rest := cs.drop text.length
  if text.isEmpty then
    if special || rest.head? == some ':' || !info.isEmpty then .error .emptyHost
    else .ok (afterAuthority scheme ⟨info, none, none⟩ rest)
  else
    let host ← if special then Host.ofDomain text else Host.ofOpaque text
    let (port, rest) ← port scheme rest
    .ok (afterAuthority scheme ⟨info, some host, port⟩ rest)

def afterSlash? (cs : List Char) : Option (List Char) :=
  match cs.dropWhile isTabOrNewline with
  | c :: rest => if isSlash true c then some rest else none
  | [] => none

/-- A file on a host, unless its path opens with a drive. After the local host the slash before
the path opens an empty segment; a drive in place of a host is the path's. -/
def withFileHost (scheme cs : List Char) : Except ParseError Url := do
  let raw := cs.takeWhile fun c => !endsAuthority true c
  let (path, rest) := splitPath cs
  let below := path.drop raw.length
  let url := fun (host : Option Host) (w : Walk) =>
    assemble scheme (some ⟨[], if w.onDrive then none else host, none⟩) (.segments w.segments)
      (unbroken rest)
  let text := unbroken raw
  if isDriveLetter text then .ok (url none (fileWalk path))
  else
    let host ← if text.isEmpty then .ok none else (Host.ofDomain text).map some
    if host.all (· == .name "localhost".toList) then .ok (url none (fileWalk below))
    else .ok (url host (fileWalk (below.drop 1)))

def localFile (scheme cs : List Char) : Url :=
  let (path, rest) := splitPath cs
  assemble scheme (some ⟨[], none, none⟩) (.segments (fileWalk path).segments) (unbroken rest)

/-- The text still has its tabs and line ends. -/
def fileUrl (scheme cs : List Char) : Except ParseError Url :=
  match afterSlash? cs with
  | none => .ok (localFile scheme cs)
  | some below =>
    match afterSlash? below with
    | none => .ok (localFile scheme below)
    | some cs => withFileHost scheme cs

def ofScheme (scheme cs : List Char) : Except ParseError Url :=
  if isSpecial scheme then withAuthority scheme (cs.dropWhile (isSlash true))
  else
    match cs with
    | '/' :: '/' :: rest => withAuthority scheme rest
    | '/' :: rest =>
      let (path, rest) := splitPath rest
      .ok (assemble scheme none (.segments (segmentsOf scheme path)) rest)
    | cs =>
      let (path, rest) := splitPath cs
      .ok (assemble scheme none (.unstructured (Percent.encode Host.isControl path)) rest)

def parse (text : String) : Except ParseError Url :=
  let cs := trimmed text.toList
  match scheme? (unbroken cs) with
  | some (scheme, rest) =>
    if isFile scheme then fileUrl scheme ((cs.dropWhile (· ≠ ':')).drop 1) else ofScheme scheme rest
  | none => .error .relativeWithoutBase

end CredentialIssuer.Url
