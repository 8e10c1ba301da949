import JsonQuery.Program.Basic
import Std.Data.HashMap

/-!
Building a program piece by piece. Names, indices and slices that are equal share one
constant; a filter always gets its own. The begin of a block is completed when the block is
closed.
-/

namespace JsonQuery

inductive Quota where
  | constants
  | instructions
  deriving DecidableEq

def Quota.word : Quota → String
  | .constants => "constants"
  | .instructions => "instructions"

/-- Operands have 16 bits, and targets 32. -/
def Quota.limit : Quota → Nat
  | .constants => Nat.pow 2 16
  | .instructions => Nat.pow 2 32 - 1

inductive CompileError where
  | usage (error : UsageError)
  | unknownFunction (name : String)
  | tooLarge (quota : Quota)
  | invalidProgram (error : ProgramError)
  deriving DecidableEq

def CompileError.message : CompileError → String
  | .usage error => error.message
  | .unknownFunction name => (UsageError.unknownFunction name).message
  | .tooLarge quota =>
    "program too large: more than " ++ toString quota.limit ++ " " ++ quota.word
  | .invalidProgram error => "invalid program: " ++ error.message

/-- What equal constants have in common. -/
inductive SharedConstant where
  | name (key : String)
  | index (position : Int)
  | slice (numbers : SliceNumbers)
  deriving DecidableEq, Hashable

def Constant.shared? : Constant → Option SharedConstant
  | .name key => some (.name key)
  | .index position => some (.index position)
  | .slice numbers => some (.slice numbers)
  | .filter _ => none

structure Builder where
  code : Array Instruction := #[]
  constants : Array Constant := #[]
  /-- The numbers of the constants that can be shared. -/
  shared : Std.HashMap SharedConstant Nat := {}
  /-- The begin of the block that is open. -/
  block : Option Nat := none

namespace Builder

/-- Appends an instruction, whose place is the number of those before it. -/
def append (b : Builder) (instruction : Instruction) : Nat × Builder :=
  (b.code.size, { b with code := b.code.push instruction })

/-- Finds the constant that another is equal to, or adds it, and gives its number. -/
def intern (b : Builder) (constant : Constant) : Except CompileError Nat × Builder :=
  match constant.shared?.bind (b.shared[·]?) with
  | some c => (.ok c, b)
  | none =>
    let c := b.constants.size
    if Quota.constants.limit ≤ c then (.error (.tooLarge .constants), b)
    else
      (.ok c, { b with
        constants := b.constants.push constant
        shared := match constant.shared? with
          | some key => b.shared.insert key c
          | none => b.shared })

def openBlock (b : Builder) : Nat × Builder :=
  let (pc, b) := b.append (.blockBegin 0)
  (pc, { b with block := some pc })

def closeBlock (b : Builder) : Except CompileError Nat × Builder :=
  let (pc, b) := b.append .blockEnd
  if Quota.instructions.limit < pc then (.error (.tooLarge .instructions), b)
  else
    match b.block with
    -- without an open block the end is appended all the same
    | none => (.error (.invalidProgram (.unbalanced pc)), b)
    | some start =>
      (.ok pc, { b with
        code := b.code.setIfInBounds start (.blockBegin pc)
        block := none })

def program (b : Builder) : Except CompileError Program :=
  (Program.ofParts b.code.toList b.constants.toList).mapError .invalidProgram

end Builder
end JsonQuery
