/-! Cutting texts: at each occurrence of a separator, and where the blanks at the ends begin. -/
namespace CredentialIssuer.Text

def push (sep c : Char) : List (List Char) → List (List Char)
  | [] => [[]]
  | segment :: rest => if c = sep then [] :: segment :: rest else (c :: segment) :: rest

/-- The pieces between separators, one more than there are separators. -/
def segments (sep : Char) (cs : List Char) : List (List Char) := cs.foldr (push sep) [[]]

/-- What stands before and after the first separator. -/
def splitFirst? (sep : Char) (cs : List Char) : Option (List Char × List Char) :=
  match cs.dropWhile (· ≠ sep) with
  | [] => none
  | _ :: rest => some (cs.takeWhile (· ≠ sep), rest)

def join (sep : Char) : List (List Char) → List Char
  | [] => []
  | [segment] => segment
  | segment :: rest => segment ++ sep :: join sep rest

/-- Membership in the property White_Space. -/
def isBlank (c : Char) : Bool :=
  let n := c.toNat
  (9 ≤ n && n ≤ 13) || n == 32 || n == 0x85 || n == 0xA0 || n == 0x1680
    || (0x2000 ≤ n && n ≤ 0x200A) || n == 0x2028 || n == 0x2029 || n == 0x202F
    || n == 0x205F || n == 0x3000

/-- The characters without blanks at either end. -/
def trim (cs : List Char) : List Char :=
  ((cs.dropWhile isBlank).reverse.dropWhile isBlank).reverse

end CredentialIssuer.Text
