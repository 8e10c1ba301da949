import JsonQuery.Program.SliceOpcode

/-!
The instructions of programs. A segment of a query becomes a block: perhaps a `descend`, then
`blockBegin`, an instruction for each selector of the segment, and `blockEnd`.
-/

namespace JsonQuery

inductive OperandKind where
  | name
  | index
  | slice
  | filter
  deriving DecidableEq

def OperandKind.word : OperandKind → String
  | .name => "name"
  | .index => "index"
  | .slice => "slice"
  | .filter => "filter"

inductive Instruction where
  /-- Replaces the nodes at hand by them and all their descendants. -/
  | descend
  | blockBegin (target : Nat)
  /-- Goes on to the next node of the block, or ends it. -/
  | blockEnd
  | selectName (constant : Nat)
  | selectIndex (constant : Nat)
  | selectWildcard
  | selectArrayAll
  | slice (opcode : SliceOpcode) (constant : Nat)
  | sliceEmpty
  | selectFilter (constant : Nat)
  deriving DecidableEq

namespace Instruction

def mnemonic : Instruction → String
  | .descend => "DESCEND"
  | .blockBegin _ => "SEGMENT_BEGIN"
  | .blockEnd => "SEGMENT_END"
  | .selectName _ => "SELECT_NAME"
  | .selectIndex _ => "SELECT_INDEX"
  | .selectWildcard => "SELECT_WILDCARD"
  | .selectArrayAll => "SELECT_ARRAY_ALL"
  | .slice opcode _ => opcode.mnemonic
  | .sliceEmpty => "SLICE_EMPTY"
  | .selectFilter _ => "SELECT_FILTER"

def operand? : Instruction → Option (Nat × OperandKind)
  | .selectName c => some (c, .name)
  | .selectIndex c => some (c, .index)
  | .slice _ c => some (c, .slice)
  | .selectFilter c => some (c, .filter)
  | _ => none

def isSelector : Instruction → Bool
  | .descend | .blockBegin _ | .blockEnd => false
  | _ => true

def text : Instruction → String
  | .blockBegin target => "SEGMENT_BEGIN " ++ toString target
  | i => match i.operand? with
    | some (c, _) => i.mnemonic ++ " " ++ toString c
    | none => i.mnemonic

end Instruction
end JsonQuery
