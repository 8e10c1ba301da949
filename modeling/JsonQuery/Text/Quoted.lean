import JsonQuery.Unicode.Hidden

/-!
Text quoted in messages and listings: between double quotes, with an escape for whatever
would not show as a character of its own.
-/

namespace JsonQuery.Quoted

/-- Whether a character shows as a character of its own. -/
def isPrintable (c : Char) : Bool :=
  if c.toNat < 0x7f then 0x20 ≤ c.toNat else !Unicode.hidden.contains c.toNat

def numbered (c : Char) : List Char :=
  ['\\', 'u', '\x7b'] ++ Nat.toDigits 16 c.toNat ++ ['\x7d']

def char (c : Char) : List Char :=
  if c = '"' then ['\\', '"']
  else if c = '\\' then ['\\', '\\']
  else if c = '\n' then ['\\', 'n']
  else if c = '\r' then ['\\', 'r']
  else if c = '\t' then ['\\', 't']
  else if c = '\x00' then ['\\', '0']
  else if isPrintable c then [c]
  else numbered c

def quote (s : String) : String := .ofList ('"' :: s.toList.flatMap char ++ ['"'])

end JsonQuery.Quoted
