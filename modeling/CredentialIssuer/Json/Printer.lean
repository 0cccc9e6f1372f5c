import CredentialIssuer.Json.Basic
import CredentialIssuer.Number.Shortest

/-! Writing JSON without blanks, members in the order given. -/
namespace CredentialIssuer.Json

def controlEscape (c : Char) : List Char :=
  ['\\', 'u', '0', '0', Char.ofNat (48 + c.toNat / 16),
    if c.toNat % 16 < 10 then Char.ofNat (48 + c.toNat % 16) else Char.ofNat (87 + c.toNat % 16)]

/-- Quotes, backslashes and control characters are escaped, the latter shortly where they can. -/
def escapeChar (c : Char) : List Char :=
  if c = '"' then ['\\', '"']
  else if c = '\\' then ['\\', '\\']
  else if c = '\n' then ['\\', 'n']
  else if c = '\r' then ['\\', 'r']
  else if c = '\t' then ['\\', 't']
  else if c = '\x08' then ['\\', 'b']
  else if c = '\x0c' then ['\\', 'f']
  else if c < ' ' then controlEscape c
  else [c]

def quoted (text : String) : List Char := '"' :: (text.toList.flatMap escapeChar ++ ['"'])

def Number.chars : Number → List Char
  | .integer n => (toString n).toList
  | .binary64 x => x.scientificText.toList

mutual

/-- An unreadable piece has no text and is written as null. -/
def chars : Json → List Char
  | .null => "null".toList
  | .bool true => "true".toList
  | .bool false => "false".toList
  | .number n => n.chars
  | .string s => quoted s
  | .array [] => ['[', ']']
  | .array (item :: items) => '[' :: chars item ++ itemChars items
  | .object [] => ['\x7b', '\x7d']
  | .object ((name, value) :: members) =>
    '\x7b' :: quoted name ++ ':' :: chars value ++ memberChars members
  | .unreadable => "null".toList

def itemChars : List Json → List Char
  | [] => [']']
  | item :: items => ',' :: chars item ++ itemChars items

def memberChars : List (String × Json) → List Char
  | [] => ['\x7d']
  | (name, value) :: members => ',' :: quoted name ++ ':' :: chars value ++ memberChars members

end

def print (value : Json) : String := String.ofList value.chars

end CredentialIssuer.Json
