import JsonQuery.Proofs.Compilation
import JsonQuery.Proofs.OpenBlocks

/-!
How often the instructions of a program are executed. Its parts have places of their own, so all
visits to the places of a block are those of the one time the run comes by: one to its begin, and
to each of the others as many as there are nodes at hand.
-/

namespace JsonQuery

/-- How often the instruction at a place is executed in some steps. -/
def Machine.Move.visits (moves : List Machine.Move) (pc : Nat) : Nat :=
  (moves.map (·.before.pc)).count pc

namespace Part

variable {p : Part} {body : List Instruction} {pc nodes i : Nat}

lemma count_visits_begin : ((block body).visits pc nodes).count pc = 1 := by
  have hnot : pc ∉ (List.replicate nodes (List.range' (pc + 1) (body.length + 1))).flatten := by
    intro h
    obtain ⟨round, hround, hpc⟩ := List.mem_flatten.1 h
    obtain rfl := List.eq_of_mem_replicate hround
    rw [List.mem_range'_1] at hpc
    omega
  rw [visits, List.count_cons_self, List.count_eq_zero.2 hnot]

/-- After its begin, every place of a block is visited once for each node. -/
lemma count_visits_round (hfrom : pc < i) (hto : i ≤ pc + body.length + 1) :
    ((block body).visits pc nodes).count i = nodes := by
  have hmem : i ∈ List.range' (pc + 1) (body.length + 1) := by
    rw [List.mem_range'_1]
    omega
  have hround : (List.range' (pc + 1) (body.length + 1)).count i = 1 :=
    List.count_eq_one_of_mem List.nodup_range' hmem
  rw [visits, List.count_cons_of_ne (Nat.ne_of_lt hfrom), List.count_flatten, List.map_replicate,
    hround, List.sum_replicate_nat, Nat.mul_one]

/-- What begins a block in the code of parts is the begin of a part. -/
lemma exists_block_of_begin {parts : List Part}
    (hbodies : ∀ body, .block body ∈ parts → ∀ i ∈ body, i.isSelector = true) {k target : Nat}
    (h : (codeOfAll pc parts)[k]? = some (.blockBegin target)) :
    ∃ before body after, parts = before ++ .block body :: after ∧ k = sizeOfAll before ∧
      target = pc + k + body.length + 1 := by
  induction parts generalizing pc k with
  | nil => cases h
  | cons p ps ih =>
    rw [codeOfAll] at h
    rcases Nat.lt_or_ge k p.size with hk | hk
    · rw [List.getElem?_append_left (by simpa using hk)] at h
      cases p with
      | descend =>
        obtain rfl : k = 0 := by simpa [size] using hk
        cases h
      | block body =>
        cases k with
        | zero => exact ⟨[], body, ps, rfl, rfl, by cases h; rfl⟩
        | succ k =>
          -- neither selectors nor the end are the begin of a block
          have hmem : Instruction.blockBegin target ∈ body ++ [.blockEnd] :=
            List.mem_of_getElem? h
          rcases List.mem_append.1 hmem with hmem | hmem
          · cases hbodies body List.mem_cons_self _ hmem
          · simp at hmem
    · rw [List.getElem?_append_right (by simpa using hk), length_code] at h
      have hrest : ∀ body, .block body ∈ ps → ∀ i ∈ body, i.isSelector = true :=
        fun body hbody => hbodies body (List.mem_cons_of_mem _ hbody)
      obtain ⟨before, body, after, rfl, hplace, rfl⟩ := ih hrest h
      refine ⟨p :: before, body, after, rfl, ?_, ?_⟩
      · rw [sizeOfAll_cons]
        omega
      · omega

end Part

namespace Machine

variable {m : Machine} {parts before after : List Part}

/-! ### The steps of a run -/

/-- All steps of a run, in order: each starts where the ones before it lead, and after all of
them the program is at its end. -/
structure Traces (m : Machine) (first : State) (moves : List Move) : Prop where
  step : ∀ (k : Nat) (move : Move), moves[k]? = some move →
    m.after k first = .ok move.before ∧
      m.step move.before = .ok (some (move.instruction, move.after))
  ends : ∃ last, m.after moves.length first = .ok last ∧ m.atEnd last = true

lemma Traces.nil {s : State} (h : m.atEnd s = true) : m.Traces s [] where
  step := by simp
  ends := ⟨s, rfl, h⟩

lemma Traces.cons {s next : State} {i : Instruction} {moves : List Move}
    (hstep : m.step s = .ok (some (i, next))) (h : m.Traces next moves) :
    m.Traces s (⟨s, i, next⟩ :: moves) where
  step := by
    intro k move hmove
    cases k with
    | zero =>
      obtain rfl : _ = move := by simpa using hmove
      exact ⟨rfl, hstep⟩
    | succ k =>
      rw [after_of_step hstep]
      exact h.step k move hmove
  ends := by
    rw [List.length_cons, after_of_step hstep]
    exact h.ends

theorem traces_moves (hm : m.Follows parts) (s : State) (hs : Standing parts s) :
    m.Traces s (m.moves s) := by
  rcases step_standing hm hs with ⟨hstep, hend⟩ | ⟨i, next, hstep, hnext, hless⟩
  · rw [moves, hstep]
    exact .nil hend
  · have hrest := traces_moves hm next hnext
    rw [moves, hstep]
    simpa [hless] using hrest.cons hstep
termination_by m.remaining s
decreasing_by exact lex_of_lessRemains hless

/-! ### Visits -/

lemma moves_finished (hm : m.Follows parts) (working : Array Json) :
    m.moves ⟨Part.sizeOfAll parts, working, []⟩ = [] := by
  rw [moves, step_finished hm working]

/-- All visits to the places of a part are those of the one time that a run comes by. -/
lemma exists_visits {p : Part} (hm : m.Follows (before ++ p :: after)) (start : Json) :
    ∃ earlier later working,
      m.after earlier.length (.initial start) = .ok ⟨Part.sizeOfAll before, working, []⟩ ∧
      (m.moves (.initial start)).map (·.before.pc) =
        earlier ++ (p.visits (Part.sizeOfAll before) working.size ++ later) ∧
      (∀ i ∈ earlier, i < Part.sizeOfAll before) ∧
      ∀ i ∈ later, Part.sizeOfAll before + p.size ≤ i := by
  have hhead : m.Follows ([] ++ (before ++ p :: after)) := hm
  have htail : m.Follows ((before ++ [p]) ++ (after ++ [])) := by simpa using hm
  have hwhole : m.Follows ((before ++ [p]) ++ after) := by simpa using hm
  obtain ⟨earlier, hearlier, hbelow⟩ := path_parts hhead #[start]
  obtain ⟨later, hlater, habove⟩ := path_parts htail
    (p.apply m (Part.applyAll m before [start])).toArray
  have hpart := path_part hm (Part.applyAll m before [start]).toArray
  refine ⟨earlier, later, _, hearlier.after_eq, ?_, fun i hi => (hbelow i hi).2, fun i hi => ?_⟩
  · have hmoves := (hearlier.trans (hpart.trans hlater)).map_moves
    rwa [moves_finished hwhole, List.map_nil, List.append_nil] at hmoves
  · simpa using (habove i hi).1

/-- The one time that a run from `first` comes by a block with its begin at `start` and its end
at `target`: after `began` steps it is in the state `entry`, where it executes the begin, and it
does so once; the other instructions it executes as often as there are nodes at hand then. -/
structure Passes (m : Machine) (first : State) (start target began : Nat) (entry : State) :
    Prop where
  entered : m.after began first = .ok entry
  pc_entry : entry.pc = start
  once : Move.visits (m.moves first) start = 1
  rounds : ∀ pc, start < pc → pc ≤ target →
    Move.visits (m.moves first) pc = entry.working.size

lemma exists_passes {body : List Instruction} (hm : m.Follows (before ++ .block body :: after))
    (start : Json) :
    ∃ began entry, m.Passes (.initial start) (Part.sizeOfAll before)
      (Part.sizeOfAll before + body.length + 1) began entry := by
  obtain ⟨earlier, later, working, hentered, hmoves, hbelow, habove⟩ := exists_visits hm start
  have hvisits : ∀ pc, Part.sizeOfAll before ≤ pc → pc ≤ Part.sizeOfAll before + body.length + 1 →
      Move.visits (m.moves (.initial start)) pc =
        ((Part.block body).visits (Part.sizeOfAll before) working.size).count pc := by
    intro pc hfrom hto
    -- The parts before the block lie below its places, those after it above.
    have hearlier : earlier.count pc = 0 :=
      List.count_eq_zero.2 fun h => Nat.not_lt.2 hfrom (hbelow pc h)
    have hlater : later.count pc = 0 :=
      List.count_eq_zero.2 fun h => Nat.not_lt.2 (habove pc h) (Nat.lt_succ_of_le hto)
    rw [Move.visits, hmoves, List.count_append, List.count_append, hearlier, hlater, Nat.zero_add,
      Nat.add_zero]
  refine ⟨_, _, hentered, rfl, ?_, fun pc hfrom hto => ?_⟩
  · rw [hvisits _ (Nat.le_refl _) (by omega), Part.count_visits_begin]
  · rw [hvisits pc (Nat.le_of_lt hfrom) hto, Part.count_visits_round hfrom hto]

/-- **How often a block is gone through.** Whatever begins a block encloses nothing but selectors
and its end, and a run comes by it once. -/
theorem passes_of_begin (hm : m.Follows parts) (start : Json) {pc target : Nat}
    (h : m.code[pc]? = some (.blockBegin target)) :
    m.Encloses pc target ∧ ∃ began entry, m.Passes (.initial start) pc target began entry := by
  rw [← Array.getElem?_toList, hm.code] at h
  obtain ⟨before, body, after, rfl, rfl, rfl⟩ :=
    Part.exists_block_of_begin (fun body hbody i hi => (hm.answers body hbody i hi).1) h
  rw [Nat.zero_add]
  exact ⟨hm.encloses, exists_passes hm start⟩

/-! ### Whole runs -/

/-- A machine whose runs from a node keep account of every open block, and go through each block
once for each node that it was begun with. -/
structure Regular (m : Machine) (start : Json) : Prop where
  accounts : ∀ n, ∃ s, m.after n (.initial start) = .ok s ∧
    ∀ block ∈ s.blocks, ∃ began entry target,
      m.Account (.initial start) n s block began entry target
  traces : m.Traces (.initial start) (m.moves (.initial start))
  passes : ∀ pc target, m.code[pc]? = some (.blockBegin target) →
    m.Encloses pc target ∧ ∃ began entry, m.Passes (.initial start) pc target began entry

lemma Follows.regular (hm : m.Follows parts) (start : Json) : m.Regular start where
  accounts := after_account hm start
  traces := traces_moves hm _ (.initial parts start)
  passes := fun _ _ => passes_of_begin hm start

end Machine

lemma Program.WellFormed.exists_follows {p : Program} (h : p.WellFormed) (root : Json) :
    ∃ parts, (p.machine root).Follows parts := by
  have hagree : p.SlicesAgree := by
    intro o c numbers hmem hc
    obtain ⟨numbers', hc', hdescribes⟩ := h.slices o c hmem
    rw [hc] at hc'
    cases hc'
    exact hdescribes.step
  obtain ⟨parts, -, hm⟩ := follows_of_verify h.verified hagree root
  exact ⟨parts, hm⟩

/-- **The blocks of a compiled program.** In every state that a number of steps leads to, an open
block has as its input the nodes that were at hand when it was begun, and as its output what all
selectors of the block take from the nodes before the current one, followed by what those before
the next instruction take from the current one. A run executes the begin of a block once, and its
end and each of its selectors as often as there were nodes at hand then, so not at all if there
were none. -/
theorem Program.regular_of_assemble (r : Registry) (q : Query) (p : Program)
    (h : r.assemble q = .ok p) :
    ∀ p' ∈ p.programs, ∀ root start : Json, (p'.machine root).Regular start := by
  intro p' hp' root start
  obtain ⟨parts, hm⟩ := (Registry.wellFormed_of_assemble h p' hp').exists_follows root
  exact hm.regular start

theorem Program.sample_regular_of_assemble :
    Registry.empty.assemble Query.sample = .ok ofSample ∧
      ∀ p' ∈ ofSample.programs, ∀ root start : Json, (p'.machine root).Regular start :=
  ⟨assemble_sample, regular_of_assemble Registry.empty _ _ assemble_sample⟩

end JsonQuery
