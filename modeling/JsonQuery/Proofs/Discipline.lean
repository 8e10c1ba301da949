import JsonQuery.Evaluation
import JsonQuery.Proofs.Parts
import JsonQuery.Proofs.SliceIndices

/-!
How the machine goes through the parts of a program. Between parts no block is open; within a
block there is one, with a node to apply to, and the next instruction is a selector of the
block or its end. Each step leads from one such place to another, never fails, and leaves
less to be done, so a run ends.
-/

namespace JsonQuery

namespace Machine

/-- A selector that takes something, be it nothing, from every node. -/
def Answers (m : Machine) (i : Instruction) : Prop :=
  i.isSelector = true ∧ ∀ node, ∃ taken, i.select? (m.operand? i) node = some taken

/-- A machine whose instructions are those of the parts, and whose selectors never fail. -/
structure Follows (m : Machine) (parts : List Part) : Prop where
  code : m.code.toList = Part.codeOfAll 0 parts
  answers : ∀ body, .block body ∈ parts → ∀ i ∈ body, m.Answers i

/-- The state after a number of steps; at the end of the program nothing changes any more. -/
def after (m : Machine) : Nat → State → Except Fault State
  | 0, s => .ok s
  | n + 1, s =>
    match m.step s with
    | .error fault => .error fault
    | .ok none => .ok s
    | .ok (some (_, next)) => m.after n next

end Machine

/-! ### Places -/

/-- Where a run can stand in the parts of a program. -/
inductive Standing (parts : List Part) : State → Prop
  | between (before after : List Part) (h : parts = before ++ after) (working : Array Json) :
    Standing parts ⟨Part.sizeOfAll before, working, []⟩
  | within (before after : List Part) (done todo : List Instruction)
    (h : parts = before ++ .block (done ++ todo) :: after) {input : Array Json} {turn : Nat}
    (hturn : turn < input.size) (output : Array Json) :
    Standing parts ⟨Part.sizeOfAll before + 1 + done.length, #[],
      [⟨input, turn, output, Part.sizeOfAll before + 1⟩]⟩

lemma Standing.initial (parts : List Part) (start : Json) : Standing parts (.initial start) :=
  .between [] parts rfl _

section Moves

variable {before after : List Part} {body : List Instruction}

lemma Standing.past {p : Part} (working : Array Json) :
    Standing (before ++ p :: after) ⟨Part.sizeOfAll before + p.size, working, []⟩ := by
  have h : Standing (before ++ p :: after) _ := .between (before ++ [p]) after (by simp) working
  simpa using h

/-- Where the begin of a block leads. -/
lemma Standing.begun (working : Array Json) :
    Standing (before ++ .block body :: after)
      (if working.isEmpty then ⟨Part.sizeOfAll before + (Part.block body).size, working, []⟩
      else ⟨Part.sizeOfAll before + 1, #[], [⟨working, 0, #[], Part.sizeOfAll before + 1⟩]⟩) := by
  split_ifs with hempty
  · exact .past working
  · have hpos : 0 < working.size := by
      rw [Array.isEmpty_iff_size_eq_zero] at hempty
      omega
    exact .within before after [] body rfl hpos #[]

/-- Where the end of a block leads. -/
lemma Standing.ended (input : Array Json) (turn : Nat) (output : Array Json) :
    Standing (before ++ .block body :: after)
      (if turn + 1 < input.size then
        ⟨Part.sizeOfAll before + 1, #[], [⟨input, turn + 1, output, Part.sizeOfAll before + 1⟩]⟩
      else ⟨Part.sizeOfAll before + (Part.block body).size, output, []⟩) := by
  split_ifs with hlast
  · exact .within before after [] body rfl hlast output
  · exact .past output

end Moves

/-- What holds of the state of a run, said without parts. With a block open, the working list
is empty, the block has a node to apply to, and the next instruction lies between the begin of
the block and its end, to which the begin leads. With no block open, the next instruction is a
`descend` or the begin of a block, or there is none. -/
def Disciplined (code : List Instruction) (s : State) : Prop :=
  (s.blocks = [] ∧
    (s.pc = code.length ∨ code[s.pc]? = some .descend ∨
      ∃ target, code[s.pc]? = some (.blockBegin target))) ∨
  ∃ block start target, s.blocks = [block] ∧ s.working = #[] ∧ block.turn < block.input.size ∧
    code[start]? = some (.blockBegin target) ∧ code[target]? = some .blockEnd ∧
    block.body = start + 1 ∧ block.body ≤ s.pc ∧ s.pc ≤ target

lemma Standing.disciplined {parts : List Part} {s : State} (h : Standing parts s) :
    Disciplined (Part.codeOfAll 0 parts) s := by
  cases h with
  | between before after h working =>
    subst h
    have hcode := Part.getElem?_codeOfAll before after 0
    refine .inl ⟨rfl, ?_⟩
    rw [Nat.add_zero] at hcode
    simp only [hcode]
    cases after with
    | nil => simp
    | cons p ps => cases p <;> simp [Part.codeOfAll, Part.code]
  | @within before after done todo h input turn hturn output =>
    subst h
    have hbegin := Part.getElem?_codeOfAll before (.block (done ++ todo) :: after) 0
    have hend := Part.getElem?_codeOfAll before (.block (done ++ todo) :: after)
      ((done ++ todo).length + 1)
    refine .inr ⟨_, Part.sizeOfAll before, Part.sizeOfAll before + ((done ++ todo).length + 1),
      rfl, rfl, hturn, ?_, ?_, rfl, ?_, ?_⟩
    · exact hbegin
    · rw [hend]
      simp [Part.codeOfAll, Part.code]
    · simp
    · simp; omega

/-! ### Steps -/

namespace Machine

variable {m : Machine} {parts before after : List Part}

/-- The instruction at a place in the parts. -/
lemma Follows.fetch (hm : m.Follows (before ++ after)) (k : Nat) :
    m.code[Part.sizeOfAll before + k]? = (Part.codeOfAll (Part.sizeOfAll before) after)[k]? := by
  rw [← Array.getElem?_toList, hm.code, Part.getElem?_codeOfAll]

lemma Follows.answers_of_mem {body : List Instruction} {i : Instruction}
    (hm : m.Follows (before ++ .block body :: after)) (hi : i ∈ body) : m.Answers i :=
  hm.answers body (by simp) i hi

lemma Follows.size (hm : m.Follows parts) : m.code.size = Part.sizeOfAll parts := by
  rw [← Array.length_toList, hm.code, Part.length_codeOfAll]

lemma step_of_fetch {s : State} {i : Instruction} (h : m.code[s.pc]? = some i) :
    m.step s = (m.execute i s).map fun next => some (i, next) := by
  rw [step, h]

lemma step_finished (hm : m.Follows parts) (working : Array Json) :
    m.step ⟨Part.sizeOfAll parts, working, []⟩ = .ok none := by
  have h : m.code[Part.sizeOfAll parts]? = none := by rw [← hm.size]; simp
  rw [step, h]

lemma step_descend (hm : m.Follows (before ++ .descend :: after)) (working : Array Json) :
    m.step ⟨Part.sizeOfAll before, working, []⟩ = .ok (some (.descend,
      ⟨Part.sizeOfAll before + 1, (Json.descendants working.toList).toArray, []⟩)) := by
  have h : m.code[Part.sizeOfAll before]? = some .descend := hm.fetch 0
  rw [step_of_fetch h]
  rfl

/-- The begin of a block skips it if there are no nodes, and else takes them into it. -/
lemma step_begin {body : List Instruction} (hm : m.Follows (before ++ .block body :: after))
    (working : Array Json) :
    m.step ⟨Part.sizeOfAll before, working, []⟩ = .ok (some
      (.blockBegin (Part.sizeOfAll before + body.length + 1),
        if working.isEmpty then ⟨Part.sizeOfAll before + (Part.block body).size, working, []⟩
        else ⟨Part.sizeOfAll before + 1, #[],
          [⟨working, 0, #[], Part.sizeOfAll before + 1⟩]⟩)) := by
  have h : m.code[Part.sizeOfAll before]? = some (.blockBegin _) := hm.fetch 0
  rw [step_of_fetch h]
  rfl

/-- A selector adds what it takes from the node at hand. -/
lemma step_selector {done todo : List Instruction} {i : Instruction}
    (hm : m.Follows (before ++ .block (done ++ i :: todo) :: after)) {input : Array Json}
    {turn : Nat} (hturn : turn < input.size) {taken : List Json}
    (htaken : i.select? (m.operand? i) input[turn] = some taken) (output : Array Json) :
    m.step ⟨Part.sizeOfAll before + 1 + done.length, #[],
        [⟨input, turn, output, Part.sizeOfAll before + 1⟩]⟩ = .ok (some (i,
      ⟨Part.sizeOfAll before + 1 + (done ++ [i]).length, #[],
        [⟨input, turn, output ++ taken, Part.sizeOfAll before + 1⟩]⟩)) := by
  have hi : i.isSelector = true := (hm.answers_of_mem (by simp)).1
  have h : m.code[Part.sizeOfAll before + 1 + done.length]? = some i := by
    rw [Nat.add_assoc, hm.fetch]
    simp [Part.codeOfAll, Part.code, Nat.add_comm 1]
  have hexec : ∀ s, m.execute i s = m.select i s := by
    intro s
    cases i <;> first | rfl | cases hi
  rw [step_of_fetch h, hexec]
  simp [select, OpenBlock.current?, hturn, htaken, Except.map, Nat.add_assoc]

/-- The end of a block begins the round of the next node, or else gives what was taken. -/
lemma step_end {body : List Instruction} (hm : m.Follows (before ++ .block body :: after))
    (input : Array Json) (turn : Nat) (output : Array Json) :
    m.step ⟨Part.sizeOfAll before + 1 + body.length, #[],
        [⟨input, turn, output, Part.sizeOfAll before + 1⟩]⟩ = .ok (some (.blockEnd,
      if turn + 1 < input.size then ⟨Part.sizeOfAll before + 1, #[],
        [⟨input, turn + 1, output, Part.sizeOfAll before + 1⟩]⟩
      else ⟨Part.sizeOfAll before + (Part.block body).size, output, []⟩)) := by
  have h : m.code[Part.sizeOfAll before + 1 + body.length]? = some .blockEnd := by
    rw [Nat.add_assoc, hm.fetch]
    simp [Part.codeOfAll, Part.code, Nat.add_comm 1]
  rw [step_of_fetch h]
  by_cases hlast : turn + 1 < input.size
  · simp [execute, leave, hlast, Except.map]
  · simp [execute, leave, hlast, Except.map, Part.size]
    omega

/-- A step leads from place to place and leaves less to be done; only at the end of the program
there is none. -/
theorem step_standing (hm : m.Follows parts) {s : State} (hs : Standing parts s) :
    (m.step s = .ok none ∧ m.atEnd s = true) ∨
      ∃ i next, m.step s = .ok (some (i, next)) ∧ Standing parts next ∧ m.lessRemains next s := by
  have hsize := hm.size
  cases hs with
  | between before after h working =>
    subst h
    cases after with
    | nil =>
      rw [List.append_nil] at hm hsize
      exact .inl ⟨step_finished hm working, by simp [atEnd, hsize]⟩
    | cons p ps =>
      cases p with
      | descend =>
        refine .inr ⟨_, _, step_descend hm working, .past (p := .descend) _, ?_⟩
        simp [lessRemains, remaining, hsize, Part.size]
        omega
      | block body =>
        refine .inr ⟨_, _, step_begin hm working, .begun working, ?_⟩
        split_ifs <;> simp [lessRemains, remaining, hsize, Part.size] <;> omega
  | @within before after done todo h input turn hturn output =>
    subst h
    cases todo with
    | nil =>
      rw [List.append_nil] at hm hsize ⊢
      refine .inr ⟨_, _, step_end hm input turn output, .ended input turn output, ?_⟩
      split_ifs <;> simp [lessRemains, remaining, hsize, Part.size] <;> omega
    | cons i todo =>
      obtain ⟨taken, htaken⟩ := (hm.answers_of_mem (i := i) (by simp)).2 input[turn]
      refine .inr ⟨_, _, step_selector hm hturn htaken output,
        .within before after (done ++ [i]) todo (by simp) hturn _, ?_⟩
      simp [lessRemains, remaining, hsize, Part.size]
      omega

/-! ### Runs -/

/-- No number of steps fails or leaves the places of the program. -/
theorem after_standing (hm : m.Follows parts) (n : Nat) {s : State} (hs : Standing parts s) :
    ∃ t, m.after n s = .ok t ∧ Standing parts t := by
  induction n generalizing s with
  | zero => exact ⟨s, rfl, hs⟩
  | succ n ih =>
    rcases step_standing hm hs with ⟨hstep, -⟩ | ⟨i, next, hstep, hnext, -⟩
    · exact ⟨s, by rw [Machine.after, hstep], hs⟩
    · obtain ⟨t, ht, hst⟩ := ih hnext
      exact ⟨t, by rw [Machine.after, hstep]; exact ht, hst⟩

/-- Some number of steps leads to the end of the program, and the run gives what is at hand
there. -/
theorem exists_after_atEnd (hm : m.Follows parts) (s : State) (hs : Standing parts s) :
    ∃ n t, m.after n s = .ok t ∧ m.atEnd t = true ∧ m.run s = .ok t.working := by
  rcases step_standing hm hs with ⟨hstep, hend⟩ | ⟨i, next, hstep, hnext, hless⟩
  · exact ⟨0, s, rfl, hend, by rw [run, hstep]⟩
  · obtain ⟨n, t, hn, ht, hrun⟩ := exists_after_atEnd hm next hnext
    refine ⟨n + 1, t, ?_, ht, ?_⟩
    · rw [Machine.after, hstep]
      exact hn
    · rw [run, hstep]
      simpa [hless] using hrun
termination_by m.remaining s
decreasing_by exact lex_of_lessRemains hless

end Machine
end JsonQuery
