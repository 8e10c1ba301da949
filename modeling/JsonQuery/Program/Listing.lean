import JsonQuery.Program.Basic

/-!
Programs as text: the text of filters and constants, and the listing of a whole program.
-/

namespace JsonQuery

/-- A query in a filter: its mark, and its source or else its size. -/
def Program.chars (origin : Origin) (p : Program) : List Char :=
  origin.char :: match p.source with
    | some source => source.toList
    | none => '<' :: natChars p.code.length ++ " instructions>".toList

mutual

/-- A filter with parentheses around every operator. -/
def Condition.chars : Condition → List Char
  | .literal value => value.chars
  | .query origin program => program.chars origin
  | .not operand => '!' :: '(' :: operand.chars ++ [')']
  | .and left right => infixed left.chars .and right.chars
  | .or left right => infixed left.chars .or right.chars
  | .compare op left right => infixed left.chars op right.chars
  | .call name _ args =>
    name.toList ++ '(' :: commaBlank.intercalate (Condition.charsOfAll args) ++ [')']
where
  infixed (left : List Char) (op : Operator) (right : List Char) : List Char :=
    '(' :: left ++ ' ' :: op.symbol.toList ++ ' ' :: right ++ [')']

def Condition.charsOfAll : List Condition → List (List Char)
  | [] => []
  | f :: fs => f.chars :: Condition.charsOfAll fs

end

def Condition.text (f : Condition) : String := .ofList f.chars

def Constant.text : Constant → String
  | .name key => "name " ++ Quoted.quote key
  | .index position => "index " ++ toString position
  | .slice numbers => "slice " ++ numbers.text
  | .filter condition => "filter " ++ condition.text

namespace Program

/-- A line of a listing: the number, in at least four places, and the text. -/
def line (number : Nat) (text : String) : String :=
  let digits := natChars number
  .ofList (List.replicate (4 - digits.length) ' ' ++ digits) ++ ": " ++ text ++ "\n"

def lines (texts : List String) : String :=
  String.join (texts.mapIdx line)

def listing (p : Program) : String :=
  "=== BYTECODE DISASSEMBLY ===\n" ++
    (p.source.elim "" fun source => "Source: " ++ source ++ "\n") ++
    "Instructions: " ++ toString p.code.length ++ "\n" ++
    "Constants: " ++ toString p.constants.length ++ "\n" ++
    "\n--- CONSTANTS ---\n" ++ lines (p.constants.map Constant.text) ++
    "\n--- INSTRUCTIONS ---\n" ++ lines (p.code.map Instruction.text)

end Program
end JsonQuery
