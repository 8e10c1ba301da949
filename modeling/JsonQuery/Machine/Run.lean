import JsonQuery.Machine.Basic

/-!
Whole runs of the machine. A run ends because each step leaves less to be done: instructions
after the block, then rounds of the block, then instructions of the round. A step that does
not is refused, which no verified program can notice.
-/

namespace JsonQuery.Machine

/-- What is left to be done: instructions from the open block on, or from the next one if no
block is open; rounds of the block; and instructions from the next one on. -/
def remaining (m : Machine) (s : State) : Nat × Nat × Nat :=
  match s.blocks with
  | [] => (m.code.size - s.pc, 0, 0)
  | block :: _ => (m.code.size - block.body, block.input.size - block.turn, m.code.size - s.pc)

/-- Whether less is left to be done, the first of the three counting most. -/
def lessRemains (m : Machine) (after before : State) : Prop :=
  let a := m.remaining after
  let b := m.remaining before
  a.1 < b.1 ∨ a.1 = b.1 ∧ (a.2.1 < b.2.1 ∨ a.2.1 = b.2.1 ∧ a.2.2 < b.2.2)

instance (m : Machine) (after before : State) : Decidable (m.lessRemains after before) := by
  unfold lessRemains
  infer_instance

theorem lex_of_lessRemains {m : Machine} {after before : State}
    (h : m.lessRemains after before) :
    Prod.Lex (· < ·) (Prod.Lex (· < ·) (· < ·)) (m.remaining after) (m.remaining before) := by
  simpa [lessRemains, Prod.lex_def] using h

def run (m : Machine) (s : State) : Except Fault (Array Json) :=
  match m.step s with
  | .error fault => .error fault
  | .ok none => .ok s.working
  | .ok (some (_, next)) =>
    if m.lessRemains next s then m.run next else .error .noProgress
termination_by m.remaining s
decreasing_by exact lex_of_lessRemains ‹_›

structure Move where
  before : State
  instruction : Instruction
  after : State

def moves (m : Machine) (s : State) : List Move :=
  match m.step s with
  | .ok (some (instruction, next)) =>
    ⟨s, instruction, next⟩ :: if m.lessRemains next s then m.moves next else []
  | _ => []
termination_by m.remaining s
decreasing_by exact lex_of_lessRemains ‹_›

end JsonQuery.Machine
