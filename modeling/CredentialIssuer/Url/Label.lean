import CredentialIssuer.Unicode.Composition
import CredentialIssuer.Unicode.Direction
import CredentialIssuer.Unicode.Joining
import CredentialIssuer.Url.DomainCharacter
import CredentialIssuer.Url.Punycode

/-! Labels of international domain names: the characters they may have, and in what order. -/
namespace CredentialIssuer.Url
open Unicode

/-- How a label is written in a URL, and what it shows to readers. -/
structure Label where
  written : List Char
  shown : List Char

namespace Label

private def firstJoining (cs : List Char) : Joining :=
  ((cs.map joining).dropWhile (· == .transparent)).head?.getD .other

/-- A joiner stands after a virama; the one that parts letters may stand where they would join.
The characters before come in reverse. -/
private def isJoinerInPlace (before : List Char) (c : Char) (after : List Char) : Bool :=
  let isAfterVirama := before.head?.any isVirama
  let joinsOn := [Joining.left, .dual].contains (firstJoining before)
  let joinsBack := [Joining.right, .dual].contains (firstJoining after)
  if c == '\u200c' then isAfterVirama || (joinsOn && joinsBack)
  else if c == '\u200d' then isAfterVirama
  else true

private def areJoinersInPlace : (before : List Char) → List Char → Bool
  | _, [] => true
  | before, c :: after => isJoinerInPlace before c after && areJoinersInPlace (c :: before) after

def mark : List Char := ['x', 'n', '-', '-']

/-- The longest label with characters beyond ASCII. -/
private def mostCharacters : Nat := 1000

private def isInOrder (shown : List Char) : Bool :=
  !shown.head?.any isMark && areJoinersInPlace [] shown && shown.length ≤ mostCharacters

/-- What Punycode is read for needs it and comes out prepared. -/
private def needsEncoding (shown : List Char) : Bool :=
  shown.any (!Punycode.isAscii ·) && shown.all isDomainCharacter && composed shown == shown
    && !mark.isPrefixOf shown && isInOrder shown

/-- The label of a prepared text: encoded, plain, or to be encoded. -/
def ofPrepared? (text : List Char) : Option Label :=
  if mark.isPrefixOf text then
    if text.all Punycode.isAscii then
      ((Punycode.decode? (text.drop mark.length)).filter needsEncoding).map fun shown =>
        ⟨text, shown⟩
    else none
  else if text.all Punycode.isAscii then some ⟨text, text⟩
  else if isInOrder text then some ⟨mark ++ Punycode.encode text, text⟩
  else none

private def fromRight : List Direction := [.rightToLeft, .arabicLetter, .arabicNumber]

private def neutral : List Direction :=
  [.europeanSeparator, .commonSeparator, .europeanTerminator, .otherNeutral, .boundaryNeutral,
    .nonspacingMark]

/-- A label starts with a letter, keeps to the way that is written, and ends in a letter or a
number, marks apart. -/
private def keepsDirection (shown : List Char) : Bool :=
  match shown.map direction with
  | [] => true
  | first :: rest =>
    let rest := rest.reverse.dropWhile (· == .nonspacingMark)
    let kept := fun (strong : List Direction) =>
      rest.head?.all strong.contains && rest.all (strong ++ neutral).contains
    match first with
    | .leftToRight => kept [.leftToRight, .europeanNumber]
    | .rightToLeft | .arabicLetter =>
      kept (.europeanNumber :: fromRight)
        && !(rest.contains .europeanNumber && rest.contains .arabicNumber)
    | _ => false

/-- Nothing in ASCII is written from the right. -/
private def isFromRight (c : Char) : Bool :=
  !Punycode.isAscii c && fromRight.contains (direction c)

/-- Where anything is written from the right, every label has to keep a direction. -/
def areAllowed (labels : List Label) : Bool :=
  !labels.any (·.shown.any isFromRight) || labels.all (keepsDirection ·.shown)

end Label

end CredentialIssuer.Url
