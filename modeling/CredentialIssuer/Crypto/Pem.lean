import CredentialIssuer.Text.Base64Url

/-! Bytes wrapped as lines of text between a BEGIN and an END line that carry a label. -/
namespace CredentialIssuer.Pem

private def lineWidth : Nat := 64

private def stripBefore? (front text : List Char) : Option (List Char) :=
  if front.isPrefixOf text then some (text.drop front.length) else none

private def stripAfter? (ending text : List Char) : Option (List Char) :=
  if ending.isSuffixOf text then some (text.take (text.length - ending.length)) else none

/-- What follows a line end at the front. -/
private def afterLineEnd? : List Char → Option (List Char)
  | '\r' :: '\n' :: rest => some rest
  | '\n' :: rest => some rest
  | '\r' :: rest => some rest
  | _ => none

private def beforeLineEnd? (text : List Char) : Option (List Char) :=
  (stripAfter? ['\r', '\n'] text).or ((stripAfter? ['\n'] text).or (stripAfter? ['\r'] text))

/-- Lines before the first boundary are skipped, if they hold no NUL. -/
private def fromBoundary? (boundary : List Char) : List Char → Option (List Char)
  | [] => none
  | '\x00' :: _ => none
  | '\n' :: rest => if boundary.isPrefixOf rest then some rest else fromBoundary? boundary rest
  | _ :: rest => fromBoundary? boundary rest

/-- Every line but the last is full. -/
private def joined? : (fuel : Nat) → List Char → Option (List Char)
  | 0, _ => none
  | fuel + 1, text =>
    if text.length ≤ lineWidth then some ((beforeLineEnd? text).getD text)
    else
      (afterLineEnd? (text.drop lineWidth)).bind fun rest =>
        (joined? fuel rest).map (text.take lineWidth ++ ·)

private def value? (c : Char) : Option Nat :=
  if c = '+' then some 62
  else if c = '/' then some 63
  else if c = '-' ∨ c = '_' then none
  else Base64Url.value? c

private def unpadded (text : List Char) : List Char :=
  match text.reverse with
  | '=' :: '=' :: rest => rest.reverse
  | '=' :: rest => rest.reverse
  | _ => text

private def padded? (text : List Char) : Option Bytes :=
  if text.length % 4 = 0 then ((unpadded text).mapM value?).bind Base64Url.ofValues? else none

/-- The bytes under a label. -/
def read? (label text : String) : Option Bytes := do
  let text := text.toList
  let boundary := "-----BEGIN ".toList
  let text ← if boundary.isPrefixOf text then some text else fromBoundary? boundary text
  let text ← stripBefore? (boundary ++ label.toList ++ "-----".toList) text
  let text ← afterLineEnd? text
  let text := (beforeLineEnd? text).getD text
  let text ← stripAfter? ("-----END ".toList ++ label.toList ++ "-----".toList) text
  let text ← beforeLineEnd? text
  padded? (← joined? (text.length + 1) text)

end CredentialIssuer.Pem
