import JsonQuery.Function.Basic
import JsonQuery.Program.Instruction

/-!
Programs: instructions and the constants they refer to. A filter is a constant, with the
queries in it compiled to programs of their own and its calls bound to functions.
-/

namespace JsonQuery

mutual

inductive Constant where
  | name (key : String)
  | index (position : Int)
  | slice (numbers : SliceNumbers)
  | filter (condition : Condition)

inductive Condition where
  | literal (value : Json)
  | query (origin : Origin) (program : Program)
  | not (operand : Condition)
  | and (left right : Condition)
  | or (left right : Condition)
  | compare (op : Operator) (left right : Condition)
  | call (name : String) (function : Function) (args : List Condition)

structure Program where
  code : List Instruction
  constants : List Constant
  source : Option String

end

def Constant.kind : Constant → OperandKind
  | .name _ => .name
  | .index _ => .index
  | .slice _ => .slice
  | .filter _ => .filter

/-! ### Verification -/

inductive ProgramError where
  /-- A block whose target is not its end. -/
  | badTarget (pc target : Nat)
  /-- A begin without an end, or an end without a begin. -/
  | unbalanced (pc : Nat)
  | misplaced (pc : Nat) (instruction : Instruction)
  /-- An operand that refers to no constant of its kind. -/
  | badConstant (pc index : Nat) (expected : OperandKind)
  deriving DecidableEq

def ProgramError.message : ProgramError → String
  | .badTarget pc target =>
    "instruction " ++ toString pc ++ ": jump target " ++ toString target ++
      " does not match its segment end"
  | .unbalanced pc => "instruction " ++ toString pc ++ ": unbalanced segment"
  | .misplaced pc instruction =>
    "instruction " ++ toString pc ++ ": " ++ instruction.mnemonic ++ " is not allowed here"
  | .badConstant pc index expected =>
    "instruction " ++ toString pc ++ ": constant " ++ toString index ++ " is not a valid " ++
      expected.word ++ " operand"

namespace Program

/-- Whether an instruction may stand at `pc`, given the open block by its begin and target,
and the block that is open after it. -/
def placed (pc : Nat) (instruction : Instruction) (block : Option (Nat × Nat)) :
    Except ProgramError (Option (Nat × Nat)) :=
  match instruction, block with
  | .blockBegin target, none => .ok (some (pc, target))
  | .blockBegin _, some _ => .error (.misplaced pc instruction)
  | .blockEnd, some (start, target) =>
    if target = pc then .ok none else .error (.badTarget start target)
  | .blockEnd, none => .error (.unbalanced pc)
  | .descend, none => .ok none
  | .descend, some _ => .error (.misplaced pc instruction)
  -- all the others are selectors
  | _, none => .error (.misplaced pc instruction)
  | _, some b => .ok (some b)

def referenced (kinds : Array OperandKind) (pc : Nat) (instruction : Instruction) :
    Except ProgramError Unit :=
  match instruction.operand? with
  | none => .ok ()
  | some (c, kind) => if kinds[c]? = some kind then .ok () else .error (.badConstant pc c kind)

def verifyFrom (kinds : Array OperandKind) (pc : Nat) (block : Option (Nat × Nat)) :
    List Instruction → Except ProgramError Unit
  | [] =>
    match block with
    | none => .ok ()
    | some (start, _) => .error (.unbalanced start)
  | instruction :: code => do
    let block ← placed pc instruction block
    referenced kinds pc instruction
    verifyFrom kinds (pc + 1) block code

/-- Checks that blocks do not nest, that each begin leads to its own end, that selectors
stand within blocks and `descend` between them, and that operands refer to constants of the
right kinds. -/
def verify (code : List Instruction) (constants : List Constant) : Except ProgramError Unit :=
  verifyFrom (constants.map Constant.kind).toArray 0 none code

def ofParts (code : List Instruction) (constants : List Constant) :
    Except ProgramError Program := do
  verify code constants
  return ⟨code, constants, none⟩

def setSource (p : Program) (source : String) : Program := { p with source := some source }

end Program
end JsonQuery
