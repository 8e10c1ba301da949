import JsonQuery.Proofs.Rounds

/-!
What an open block has taken. After any number of steps, the output of the block that is open is
what its selectors have taken from the nodes before the one at hand, each with all of them, and
from the node at hand, with those before the next instruction. Its input is what was at hand when
it was begun.
-/

namespace JsonQuery

namespace Machine

variable {m : Machine} {parts before after : List Part} {first : State} {n : Nat}

/-- What the instructions from one place up to another take from a node. -/
def takesFrom (m : Machine) (start limit : Nat) (node : Json) : List Json :=
  (m.code.extract start limit).toList.flatMap (m.takes node)

/-- Between the begin of a block and some place in it stand the selectors up to there. -/
lemma Follows.takesFrom_eq {done todo : List Instruction}
    (hm : m.Follows (before ++ .block (done ++ todo) :: after)) :
    m.takesFrom (Part.sizeOfAll before + 1) (Part.sizeOfAll before + 1 + done.length) =
      fun node => done.flatMap (m.takes node) := by
  obtain ⟨head, rest, hcode, hhead⟩ : ∃ head rest, m.code.toList = head ++ (done ++ rest) ∧
      head.length = Part.sizeOfAll before + 1 := by
    refine ⟨Part.codeOfAll 0 before ++
      [Instruction.blockBegin (Part.sizeOfAll before + (done ++ todo).length + 1)],
      todo ++ .blockEnd ::
        Part.codeOfAll (Part.sizeOfAll before + (Part.block (done ++ todo)).size) after, ?_, ?_⟩
    · simp [hm.code, Part.codeOfAll_append, Part.codeOfAll, Part.code]
    · simp
  funext node
  rw [takesFrom, Array.toList_extract, hcode, List.extract_eq_take_drop, Nat.add_sub_cancel_left,
    ← hhead, List.drop_left, List.take_left]

/-! ### One more step -/

lemma after_of_step {s next : State} {i : Instruction} (h : m.step s = .ok (some (i, next)))
    (n : Nat) : m.after (n + 1) s = m.after n next := by
  rw [Machine.after, h]

lemma after_of_end {s : State} (h : m.step s = .ok none) (n : Nat) : m.after (n + 1) s = .ok s := by
  rw [Machine.after, h]

/-- The last of a number of steps is taken from where the others lead. -/
lemma after_succ {s t : State} (h : m.after n s = .ok t) : m.after (n + 1) s = m.after 1 t := by
  induction n generalizing s with
  | zero =>
    cases h
    rfl
  | succ n ih =>
    rw [Machine.after] at h ⊢
    cases hstep : m.step s with
    | error fault => rw [hstep] at h; cases h
    | ok next =>
      rw [hstep] at h
      rcases next with _ | ⟨i, next⟩
      · cases h
        exact (after_of_end hstep 0).symm
      · exact ih h

/-! ### Accounts -/

/-- The places of `Standing`, with their history: where a run from `first` stands after `n` steps,
when the open block was begun, and what it has taken since. A step keeps the output only together
with the round that it belongs to, so both are said of one state. -/
inductive Accounted (m : Machine) (parts : List Part) (first : State) (n : Nat) : State → Prop
  | between (before after : List Part) (h : parts = before ++ after) (working : Array Json) :
    Accounted m parts first n ⟨Part.sizeOfAll before, working, []⟩
  | within (before after : List Part) (done todo : List Instruction)
    (h : parts = before ++ .block (done ++ todo) :: after) {input output : Array Json}
    {turn : Nat} (hturn : turn < input.size)
    (hbegun : ∃ k < n, m.after k first = .ok ⟨Part.sizeOfAll before, input, []⟩)
    (houtput : output.toList = (Part.block (done ++ todo)).apply m (input.toList.take turn) ++
      done.flatMap (m.takes input[turn])) :
    Accounted m parts first n ⟨Part.sizeOfAll before + 1 + done.length, #[],
      [⟨input, turn, output, Part.sizeOfAll before + 1⟩]⟩

lemma Accounted.initial (start : Json) : Accounted m parts first n (.initial start) :=
  .between [] parts rfl _

lemma Accounted.past {p : Part} (working : Array Json) :
    Accounted m (before ++ p :: after) first n ⟨Part.sizeOfAll before + p.size, working, []⟩ := by
  have h : Accounted m (before ++ p :: after) first n _ :=
    .between (before ++ [p]) after (by simp) working
  simpa using h

/-- Where the begin of a block leads, which is the step after `n` others. -/
lemma Accounted.begun {body : List Instruction} {working : Array Json}
    (hn : m.after n first = .ok ⟨Part.sizeOfAll before, working, []⟩) :
    Accounted m (before ++ .block body :: after) first (n + 1)
      (if working.isEmpty then ⟨Part.sizeOfAll before + (Part.block body).size, working, []⟩
      else ⟨Part.sizeOfAll before + 1, #[], [⟨working, 0, #[], Part.sizeOfAll before + 1⟩]⟩) := by
  split_ifs with hempty
  · exact .past working
  · have hpos : 0 < working.size := by
      rw [Array.isEmpty_iff_size_eq_zero] at hempty
      omega
    exact .within before after [] body rfl hpos ⟨n, Nat.lt_succ_self n, hn⟩ rfl

/-- Where the end of a block leads. -/
lemma Accounted.ended {body : List Instruction} {input output : Array Json} {turn : Nat}
    (hturn : turn < input.size)
    (hbegun : ∃ k < n, m.after k first = .ok ⟨Part.sizeOfAll before, input, []⟩)
    (houtput : output.toList = (Part.block body).apply m (input.toList.take turn) ++
      body.flatMap (m.takes input[turn])) :
    Accounted m (before ++ .block body :: after) first n
      (if turn + 1 < input.size then
        ⟨Part.sizeOfAll before + 1, #[], [⟨input, turn + 1, output, Part.sizeOfAll before + 1⟩]⟩
      else ⟨Part.sizeOfAll before + (Part.block body).size, output, []⟩) := by
  split_ifs with hlast
  · have hnext : input.toList.take (turn + 1) = input.toList.take turn ++ [input[turn]] :=
      (List.take_append_getElem (by simpa using hturn)).symm
    refine .within before after [] body rfl hlast hbegun ?_
    rw [houtput, List.nil_append, hnext]
    simp [Part.apply]
  · exact .past output

lemma Accounted.next (hm : m.Follows parts) {s : State} (hn : m.after n first = .ok s)
    (hs : Accounted m parts first n s) :
    ∃ t, m.after (n + 1) first = .ok t ∧ Accounted m parts first (n + 1) t := by
  rw [after_succ hn]
  cases hs with
  | between before after h working =>
    subst h
    cases after with
    | nil =>
      rw [List.append_nil] at hm ⊢
      exact ⟨_, after_of_end (step_finished hm working) 0, .between before [] (by simp) working⟩
    | cons p ps =>
      cases p with
      | descend => exact ⟨_, after_of_step (step_descend hm working) 0, .past (p := .descend) _⟩
      | block body => exact ⟨_, after_of_step (step_begin hm working) 0, .begun hn⟩
  | @within before after done todo h input output turn hturn hbegun houtput =>
    subst h
    obtain ⟨k, hk, hentry⟩ := hbegun
    have hbegun : ∃ k < n + 1, m.after k first = .ok ⟨Part.sizeOfAll before, input, []⟩ :=
      ⟨k, by omega, hentry⟩
    cases todo with
    | nil =>
      rw [List.append_nil] at hm houtput ⊢
      exact ⟨_, after_of_step (step_end hm input turn output) 0, .ended hturn hbegun houtput⟩
    | cons i todo =>
      have htaken := select?_of_answers (hm.answers_of_mem (i := i) (by simp)) input[turn]
      refine ⟨_, after_of_step (step_selector hm hturn htaken output) 0,
        .within before after (done ++ [i]) todo (by simp) hturn hbegun ?_⟩
      simp [houtput]

lemma after_accounted (hm : m.Follows parts) (start : Json) (n : Nat) :
    ∃ s, m.after n (.initial start) = .ok s ∧ Accounted m parts (.initial start) n s := by
  induction n with
  | zero => exact ⟨_, rfl, .initial start⟩
  | succ n ih =>
    obtain ⟨s, hn, hs⟩ := ih
    exact hs.next hm hn

/-! ### Accounts without parts -/

/-- A block from its begin to its end, with nothing but selectors between them. -/
structure Encloses (m : Machine) (start target : Nat) : Prop where
  opens : m.code[start]? = some (.blockBegin target)
  selectors : ∀ pc, start < pc → pc < target → ∃ i, m.code[pc]? = some i ∧ m.Answers i
  closes : m.code[target]? = some .blockEnd

lemma Follows.encloses {body : List Instruction}
    (hm : m.Follows (before ++ .block body :: after)) :
    m.Encloses (Part.sizeOfAll before) (Part.sizeOfAll before + body.length + 1) where
  opens := hm.fetch 0
  selectors := by
    intro pc hfrom hto
    obtain ⟨k, rfl⟩ := Nat.exists_eq_add_of_lt hfrom
    have hk : k < body.length := by omega
    refine ⟨body[k], ?_, hm.answers_of_mem (List.getElem_mem hk)⟩
    rw [Nat.add_assoc, hm.fetch]
    simp [Part.codeOfAll, Part.code, List.getElem?_append_left hk]
  closes := by
    rw [Nat.add_assoc, hm.fetch]
    simp [Part.codeOfAll, Part.code]

/-- The account of a block that is open in a state `s`, after `n` steps from `first`. Its begin
was executed after `began` of them, in the state `entry`, and its end is at `target`. -/
structure Account (m : Machine) (first : State) (n : Nat) (s : State) (block : OpenBlock)
    (began : Nat) (entry : State) (target : Nat) : Prop where
  began_lt : began < n
  entered : m.after began first = .ok entry
  encloses : m.Encloses entry.pc target
  body : block.body = entry.pc + 1
  body_le : block.body ≤ s.pc
  le_target : s.pc ≤ target
  input : block.input = entry.working
  output : ∃ node, block.current? = some node ∧ block.output.toList =
    (block.input.toList.take block.turn).flatMap (m.takesFrom block.body target) ++
      m.takesFrom block.body s.pc node

lemma Accounted.account (hm : m.Follows parts) {s : State} (hs : Accounted m parts first n s) :
    ∀ block ∈ s.blocks, ∃ began entry target, m.Account first n s block began entry target := by
  cases hs with
  | between => simp
  | @within before after done todo h input output turn hturn hbegun houtput =>
    subst h
    obtain ⟨began, hlt, hentry⟩ := hbegun
    have hall : m.Follows (before ++ .block ((done ++ todo) ++ []) :: after) := by simpa using hm
    have htarget : Part.sizeOfAll before + (done ++ todo).length + 1 =
        Part.sizeOfAll before + 1 + (done ++ todo).length := by omega
    intro block hblock
    obtain rfl := List.mem_singleton.1 hblock
    refine ⟨began, _, _, hlt, hentry, hm.encloses, rfl, Nat.le_add_right _ _, ?_, rfl,
      input[turn], ?_, ?_⟩
    · simp
      omega
    · simp [OpenBlock.current?, hturn]
    · rw [htarget, hall.takesFrom_eq, hm.takesFrom_eq]
      exact houtput

/-- **What an open block has taken.** No number of steps fails, and after each the account of
the block that is open then is in order. -/
theorem after_account (hm : m.Follows parts) (start : Json) (n : Nat) :
    ∃ s, m.after n (.initial start) = .ok s ∧
      ∀ block ∈ s.blocks, ∃ began entry target,
        m.Account (.initial start) n s block began entry target := by
  obtain ⟨s, hn, hs⟩ := after_accounted hm start n
  exact ⟨s, hn, hs.account hm⟩

end Machine
end JsonQuery
