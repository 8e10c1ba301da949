import JsonQuery.Number.Text
import JsonQuery.Query.Basic

/-!
The canonical text of a query: every selector in brackets, names in single quotes, and
parentheses only where an operand would be read otherwise.
-/

namespace JsonQuery

/-! ### Literals -/

def quotedChar (c : Char) : List Char :=
  if c = '\'' then ['\\', '\'']
  else if c = '\\' then ['\\', '\\']
  else if c = '\x08' then ['\\', 'b']
  else if c = '\x0c' then ['\\', 'f']
  else if c = '\n' then ['\\', 'n']
  else if c = '\r' then ['\\', 'r']
  else if c = '\t' then ['\\', 't']
  else if c.toNat < 0x20 then
    ['\\', 'u', '0', '0', Nat.digitChar (c.toNat / 16), Nat.digitChar (c.toNat % 16)]
  else [c]

def quoted (s : String) : List Char := '\'' :: s.toList.flatMap quotedChar ++ ['\'']

def Numeral.chars : Numeral → List Char
  | .finite x => x.plainChars
  | .infinite negative => (if negative then ['-'] else []) ++ "inf".toList
  | .nan => "NaN".toList

def Literal.chars : Literal → List Char
  | .null => "null".toList
  | .bool true => "true".toList
  | .bool false => "false".toList
  | .number x => x.chars
  | .string s => quoted s

/-- The bounds with a colon between them, and the step if it is not one. -/
def Slice.chars (s : Slice) : List Char :=
  s.start.elim [] intChars ++ ':' :: s.stop.elim [] intChars ++
    if s.step = 1 then [] else ':' :: intChars s.step

def Origin.char : Origin → Char
  | .root => '$'
  | .current => '@'

/-! ### Parentheses -/

/-- How tightly an expression holds together; operators of two operands do so least. -/
def Filter.precedence : Filter → Nat
  | .binary op _ _ => op.precedence
  | _ => 255

/-- Whether the left operand of an operator needs parentheses: a comparison takes no
comparison as its operand. -/
def Filter.wrapsLeft (op : Operator) (operand : Filter) : Bool :=
  operand.precedence < op.precedence ||
    (op.precedence == 3 && operand.precedence == 3)

/-- Whether the right operand needs them: operators of one precedence associate to the left. -/
def Filter.wrapsRight (op : Operator) (operand : Filter) : Bool :=
  operand.precedence ≤ op.precedence

def Filter.wrapsNegated (operand : Filter) : Bool := operand.precedence < 255

def parenthesized (wrap : Bool) (text : List Char) : List Char :=
  if wrap then '(' :: text ++ [')'] else text

def commaBlank : List Char := [',', ' ']

/-! ### Queries -/

mutual

def Selector.chars : Selector → List Char
  | .name key => quoted key
  | .index position => intChars position
  | .wildcard => ['*']
  | .slice slice => slice.chars
  | .filter condition => '?' :: condition.chars

def Selector.charsOfAll : List Selector → List (List Char)
  | [] => []
  | s :: ss => s.chars :: Selector.charsOfAll ss

def Segment.chars : Segment → List Char
  | ⟨descendant, selectors⟩ =>
    (if descendant then ['.', '.'] else []) ++
      '[' :: commaBlank.intercalate (Selector.charsOfAll selectors) ++ [']']

/-- The text of segments, without a mark for where they begin. -/
def Segment.charsOfAll : List Segment → List Char
  | [] => []
  | s :: ss => s.chars ++ Segment.charsOfAll ss

def Filter.chars : Filter → List Char
  | .literal value => value.chars
  | .query origin segments => origin.char :: Segment.charsOfAll segments
  | .not operand => '!' :: parenthesized operand.wrapsNegated operand.chars
  | .binary op left right =>
    parenthesized (Filter.wrapsLeft op left) left.chars ++
      ' ' :: op.symbol.toList ++ ' ' ::
      parenthesized (Filter.wrapsRight op right) right.chars
  | .call name args =>
    name.toList ++ '(' :: commaBlank.intercalate (Filter.charsOfAll args) ++ [')']

def Filter.charsOfAll : List Filter → List (List Char)
  | [] => []
  | f :: fs => f.chars :: Filter.charsOfAll fs

end

def Query.chars (q : Query) : List Char := '$' :: Segment.charsOfAll q

def Query.text (q : Query) : String := .ofList q.chars

def Filter.text (f : Filter) : String := .ofList f.chars

def Literal.text (l : Literal) : String := .ofList l.chars

def Slice.text (s : Slice) : String := .ofList s.chars

end JsonQuery
