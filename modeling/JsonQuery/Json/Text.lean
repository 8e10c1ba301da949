import JsonQuery.Json.Basic
import JsonQuery.Number.Text

/-!
The text of a document: no blanks, and the members of an object by ascending name.
-/

namespace JsonQuery

def jsonChar (c : Char) : List Char :=
  if c = '"' then ['\\', '"']
  else if c = '\\' then ['\\', '\\']
  else if c = '\x08' then ['\\', 'b']
  else if c = '\x0c' then ['\\', 'f']
  else if c = '\n' then ['\\', 'n']
  else if c = '\r' then ['\\', 'r']
  else if c = '\t' then ['\\', 't']
  else if c.toNat < 0x20 then
    ['\\', 'u', '0', '0', Nat.digitChar (c.toNat / 16), Nat.digitChar (c.toNat % 16)]
  else [c]

def jsonQuoted (s : String) : List Char := '"' :: s.toList.flatMap jsonChar ++ ['"']

def Number.chars : Number → List Char
  | .int n => intChars n
  | .real x => x.jsonChars

namespace Json

mutual

def chars : Json → List Char
  | .null => "null".toList
  | .bool true => "true".toList
  | .bool false => "false".toList
  | .number n => n.chars
  | .string s => jsonQuoted s
  | .array items => '[' :: [','].intercalate (charsOfItems items) ++ [']']
  | .object members =>
    '{' :: [','].intercalate ((sortByName (charsOfMembers members)).map (·.2)) ++ ['}']

def charsOfItems : List Json → List (List Char)
  | [] => []
  | item :: items => item.chars :: charsOfItems items

/-- Each member with its name, by which it is then put in order. -/
def charsOfMembers : List (String × Json) → List (String × List Char)
  | [] => []
  | (name, value) :: members =>
    (name, jsonQuoted name ++ ':' :: value.chars) :: charsOfMembers members

end

def text (j : Json) : String := .ofList j.chars

end Json
end JsonQuery
