import JsonQuery.Proofs.Discipline

/-!
What a run gives and which instructions it executes, said part by part: a `descend` lists the
nodes at hand and what is below them, and a block takes from each node in turn what its selectors
take from it, going through all of its instructions once for each node.
-/

namespace JsonQuery

/-- What a selector takes from a node, with the operand it finds in the machine. -/
def Machine.takes (m : Machine) (node : Json) (i : Instruction) : List Json :=
  (i.select? (m.operand? i) node).getD []

namespace Part

/-- What a part makes of the nodes at hand. -/
def apply (m : Machine) : Part → List Json → List Json
  | .descend, nodes => nodes.flatMap Json.preorder
  | .block body, nodes => nodes.flatMap fun node => body.flatMap (m.takes node)

def applyAll (m : Machine) : List Part → List Json → List Json
  | [], nodes => nodes
  | p :: ps, nodes => applyAll m ps (p.apply m nodes)

/-- The places of the instructions that are executed in a part at `pc`, with a number of nodes
at hand. -/
def visits (pc nodes : Nat) : Part → List Nat
  | .descend => [pc]
  | .block body =>
    pc :: (List.replicate nodes (List.range' (pc + 1) (body.length + 1))).flatten

lemma bounds_of_mem_visits {p : Part} {pc nodes i : Nat} (hi : i ∈ p.visits pc nodes) :
    pc ≤ i ∧ i < pc + p.size := by
  cases p with
  | descend =>
    obtain rfl := List.mem_singleton.1 hi
    exact ⟨Nat.le_refl i, Nat.lt_succ_self i⟩
  | block body =>
    rw [size]
    rcases List.mem_cons.1 hi with rfl | hi
    · omega
    · obtain ⟨round, hround, hi⟩ := List.mem_flatten.1 hi
      obtain rfl := List.eq_of_mem_replicate hround
      rw [List.mem_range'_1] at hi
      omega

end Part

namespace Machine

variable {m : Machine} {before after : List Part}

lemma append_list_assoc (output : Array Json) (xs ys : List Json) :
    output ++ xs ++ ys = output ++ (xs ++ ys) := by
  apply Array.ext'
  simp

lemma select?_of_answers {i : Instruction} (h : m.Answers i) (node : Json) :
    i.select? (m.operand? i) node = some (m.takes node i) := by
  obtain ⟨taken, htaken⟩ := h.2 node
  rw [takes, htaken, Option.getD_some]

/-! ### Paths -/

/-- Steps that a run takes from one state to another, by the places of their instructions. -/
inductive Path (m : Machine) : State → List Nat → State → Prop
  | here (s : State) : Path m s [] s
  | ahead {s next t : State} {i : Instruction} {places : List Nat}
    (hstep : m.step s = .ok (some (i, next))) (hless : m.lessRemains next s)
    (h : Path m next places t) : Path m s (s.pc :: places) t

namespace Path

variable {s t u : State} {places places' : List Nat}

lemma trans (h : m.Path s places t) (h' : m.Path t places' u) :
    m.Path s (places ++ places') u := by
  induction h with
  | here => exact h'
  | ahead hstep hless _ ih => exact .ahead hstep hless (ih h')

lemma run_eq (h : m.Path s places t) : m.run s = m.run t := by
  induction h with
  | here => rfl
  | ahead hstep hless _ ih =>
    rw [run, hstep]
    simpa [hless] using ih

lemma map_moves (h : m.Path s places t) :
    (m.moves s).map (·.before.pc) = places ++ (m.moves t).map (·.before.pc) := by
  induction h with
  | here => rfl
  | ahead hstep hless _ ih =>
    rw [moves, hstep]
    simpa [hless] using ih

lemma after_eq (h : m.Path s places t) : m.after places.length s = .ok t := by
  induction h with
  | here => rfl
  | ahead hstep _ _ ih =>
    rw [List.length_cons, Machine.after, hstep]
    exact ih

end Path

/-- A run goes where a step leads. -/
lemma path_of_step {parts : List Part} (hm : m.Follows parts) {s next : State}
    {i : Instruction} (hs : Standing parts s) (h : m.step s = .ok (some (i, next))) :
    m.Path s [s.pc] next := by
  rcases step_standing hm hs with ⟨hstep, -⟩ | ⟨j, t, hstep, -, hless⟩
  · rw [hstep] at h; cases h
  · rw [hstep] at h
    cases h
    exact .ahead hstep hless (.here _)

/-- The rest of a round takes from its node what the rest of the selectors take. -/
lemma path_round {done todo : List Instruction}
    (hm : m.Follows (before ++ .block (done ++ todo) :: after)) {input : Array Json} {turn : Nat}
    (hturn : turn < input.size) (output : Array Json) :
    m.Path ⟨Part.sizeOfAll before + 1 + done.length, #[],
        [⟨input, turn, output, Part.sizeOfAll before + 1⟩]⟩
      (List.range' (Part.sizeOfAll before + 1 + done.length) todo.length)
      ⟨Part.sizeOfAll before + 1 + (done ++ todo).length, #[],
        [⟨input, turn, output ++ todo.flatMap (m.takes input[turn]),
          Part.sizeOfAll before + 1⟩]⟩ := by
  induction todo generalizing done output with
  | nil =>
    have hnone : output ++ ([] : List Json) = output := by simp
    rw [List.append_nil, List.flatMap_nil, hnone]
    exact .here _
  | cons i todo ih =>
    have htaken := select?_of_answers (hm.answers_of_mem (i := i) (by simp)) input[turn]
    have hstep := path_of_step hm (.within before after done _ rfl hturn output)
      (step_selector hm hturn htaken output)
    have hsplit : done ++ i :: todo = (done ++ [i]) ++ todo := by simp
    rw [hsplit] at hm ⊢
    have hrest := hstep.trans (ih hm (output ++ m.takes input[turn] i))
    rw [append_list_assoc] at hrest
    simpa [List.range'_succ, Nat.add_assoc] using hrest

/-- From the round of one node on, a block takes from the nodes that are left. -/
lemma path_rounds {body : List Instruction} (hm : m.Follows (before ++ .block body :: after))
    {input : Array Json} {turn : Nat} (hturn : turn < input.size) (output : Array Json) :
    m.Path ⟨Part.sizeOfAll before + 1, #[],
        [⟨input, turn, output, Part.sizeOfAll before + 1⟩]⟩
      (List.replicate (input.size - turn)
        (List.range' (Part.sizeOfAll before + 1) (body.length + 1))).flatten
      ⟨Part.sizeOfAll before + (Part.block body).size,
        output ++ (Part.block body).apply m (input.toList.drop turn), []⟩ := by
  induction hn : input.size - turn generalizing turn output with
  | zero => omega
  | succ n ih =>
    have hm' : m.Follows (before ++ .block ([] ++ body) :: after) := hm
    have hround := path_round hm' hturn output
    have hend := path_of_step hm (.within before after body [] (by simp) hturn
      (output ++ body.flatMap (m.takes input[turn]))) (step_end hm input turn _)
    have hplaces : List.range' (Part.sizeOfAll before + 1) (body.length + 1) =
        List.range' (Part.sizeOfAll before + 1) body.length ++
          [Part.sizeOfAll before + 1 + body.length] := by
      rw [List.range'_concat, Nat.one_mul]
    have hdrop : input.toList.drop turn = input[turn] :: input.toList.drop (turn + 1) :=
      List.drop_eq_getElem_cons (by simpa using hturn)
    have hturn' := hround.trans hend
    rw [List.replicate_succ, List.flatten_cons, hdrop, hplaces]
    by_cases hlast : turn + 1 < input.size
    · rw [if_pos hlast] at hturn'
      have hrest := hturn'.trans (ih hlast _ (by omega))
      rw [append_list_assoc] at hrest
      simpa [Part.apply, hplaces] using hrest
    · rw [if_neg hlast] at hturn'
      obtain rfl : n = 0 := by omega
      rw [List.drop_eq_nil_of_le (by simp; omega)]
      simpa [Part.apply] using hturn'

lemma path_block {body : List Instruction} (hm : m.Follows (before ++ .block body :: after))
    (working : Array Json) :
    m.Path ⟨Part.sizeOfAll before, working, []⟩
      ((Part.block body).visits (Part.sizeOfAll before) working.size)
      ⟨Part.sizeOfAll before + (Part.block body).size,
        ((Part.block body).apply m working.toList).toArray, []⟩ := by
  have hbegin := path_of_step hm (.between before _ rfl working) (step_begin hm working)
  by_cases hempty : working = #[]
  · subst hempty
    exact hbegin
  · have hpos : 0 < working.size := Array.size_pos_iff.2 hempty
    rw [if_neg (by simpa using hempty)] at hbegin
    simpa [Part.visits] using hbegin.trans (path_rounds hm hpos #[])

lemma path_descend (hm : m.Follows (before ++ .descend :: after)) (working : Array Json) :
    m.Path ⟨Part.sizeOfAll before, working, []⟩
      (Part.descend.visits (Part.sizeOfAll before) working.size)
      ⟨Part.sizeOfAll before + Part.descend.size,
        (Part.descend.apply m working.toList).toArray, []⟩ := by
  have hstep := path_of_step hm (.between before _ rfl working) (step_descend hm working)
  rwa [Json.descendants_eq] at hstep

/-- A part makes of the nodes at hand what it has to, by way of its own places. -/
lemma path_part {p : Part} (hm : m.Follows (before ++ p :: after)) (working : Array Json) :
    m.Path ⟨Part.sizeOfAll before, working, []⟩
      (p.visits (Part.sizeOfAll before) working.size)
      ⟨Part.sizeOfAll (before ++ [p]), (p.apply m working.toList).toArray, []⟩ := by
  rw [Part.sizeOfAll_append, Part.sizeOfAll_cons, Part.sizeOfAll_nil, Nat.add_zero]
  cases p with
  | descend => exact path_descend hm working
  | block body => exact path_block hm working

/-- A row of parts is applied part by part, by way of places of its own. -/
lemma path_parts {parts : List Part} (hm : m.Follows (before ++ (parts ++ after)))
    (working : Array Json) :
    ∃ places, m.Path ⟨Part.sizeOfAll before, working, []⟩ places
        ⟨Part.sizeOfAll (before ++ parts), (Part.applyAll m parts working.toList).toArray, []⟩ ∧
      ∀ i ∈ places, Part.sizeOfAll before ≤ i ∧ i < Part.sizeOfAll (before ++ parts) := by
  induction parts generalizing before working with
  | nil => exact ⟨[], by simpa [Part.applyAll] using .here _, by simp⟩
  | cons p ps ih =>
    have hm' : m.Follows ((before ++ [p]) ++ (ps ++ after)) := by simpa using hm
    obtain ⟨places, hpath, hplaces⟩ := ih hm' (p.apply m working.toList).toArray
    rw [List.append_assoc, List.singleton_append] at hpath hplaces
    refine ⟨_, (path_part hm working).trans hpath, fun i hi => ?_⟩
    rcases List.mem_append.1 hi with hi | hi
    · have := Part.bounds_of_mem_visits hi
      simp
      omega
    · have := hplaces i hi
      simp at this ⊢
      omega

/-- **What a run gives.** A machine that follows parts applies them one after the other. -/
theorem run_eq_applyAll (hm : m.Follows (before ++ after)) (working : Array Json) :
    m.run ⟨Part.sizeOfAll before, working, []⟩ =
      .ok (Part.applyAll m after working.toList).toArray := by
  have hm' : m.Follows (before ++ (after ++ [])) := by simpa using hm
  obtain ⟨_, hpath, -⟩ := path_parts hm' working
  rw [hpath.run_eq, run, step_finished hm]

end Machine
end JsonQuery
