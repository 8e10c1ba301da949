import JsonQuery.Proofs.Concatenation
import JsonQuery.Proofs.OpenBlocks

/-!
How deep the results of a query lie. A selector takes nodes directly below the one it applies to,
and a `descend` takes nodes that lie anywhere below. So the nodes at hand in a run are nodes of
the document where it starts, at least as many steps down as there are blocks behind it, and
exactly as many if there was no `descend`. What filters read, from the root or elsewhere, only
decides which of them are taken.
-/

namespace JsonQuery

/-! ### Steps down -/

namespace Json

/-- An element of an array, or the value of a member of an object. -/
inductive HasChild : Json → Json → Prop
  | element {items : List Json} {j : Json} (h : j ∈ items) : HasChild (.array items) j
  | member {members : List (String × Json)} {name : String} {j : Json} (h : (name, j) ∈ members) :
    HasChild (.object members) j

/-- From one node to another by exactly so many steps from a value to one of its children. -/
inductive Chain (start : Json) : Nat → Json → Prop
  | here : Chain start 0 start
  | down {n : Nat} {j child : Json} (h : Chain start n j) (hchild : j.HasChild child) :
    Chain start (n + 1) child

variable {start j child : Json} {n : Nat}

lemma mem_children_iff : child ∈ j.children ↔ j.HasChild child := by
  constructor
  · intro h
    cases j with
    | array items => exact .element h
    | object members =>
      obtain ⟨m, hm, rfl⟩ := List.mem_map.1 h
      exact .member ((sortByName_perm members).mem_iff.1 hm)
    | _ => cases h
  · rintro (h | h)
    · exact h
    · exact List.mem_map.2 ⟨_, (sortByName_perm _).mem_iff.2 h, rfl⟩

lemma hasChild_of_mem_elements (h : child ∈ j.elements) : j.HasChild child := by
  cases j with
  | array items => exact .element h
  | _ => cases h

lemma Chain.single (h : j.HasChild child) : j.Chain 1 child :=
  .down .here h

lemma Chain.trans {m : Nat} (h : start.Chain m j) (h' : j.Chain n child) :
    start.Chain (m + n) child := by
  induction h' with
  | here => exact h
  | down _ hchild ih => exact .down ih hchild

/-- What the pre-order lists lies below the node it begins with, or is that node. -/
lemma exists_chain_of_mem_preorder {j : Json} (h : child ∈ j.preorder) :
    ∃ n, j.Chain n child := by
  rw [preorder_eq, List.mem_cons, List.mem_flatMap] at h
  rcases h with rfl | ⟨next, hnext, h⟩
  · exact ⟨0, .here⟩
  -- Children come in the order of their names, so the recursion is on the number of nodes.
  · obtain ⟨n, hn⟩ := exists_chain_of_mem_preorder h
    exact ⟨1 + n, (Chain.single (mem_children_iff.1 hnext)).trans hn⟩
termination_by j.nodes
decreasing_by
  have := nodes_lt_of_mem hnext
  have := j.nodes_children
  omega

/-! ### Selectors -/

lemma hasChild_of_member? {key : String} (h : j.member? key = some child) : j.HasChild child := by
  cases j with
  | object members =>
    obtain ⟨before, after, rfl, -⟩ := List.lookup_eq_some_iff.1 h
    exact .member (List.mem_append_right _ List.mem_cons_self)
  | _ => cases h

lemma hasChild_of_element? {position : Int} (h : j.element? position = some child) :
    j.HasChild child := by
  simp only [element?] at h
  split_ifs at h
  all_goals exact hasChild_of_mem_elements (List.mem_of_getElem? h)

lemma mem_of_item? {items : Array Json} {i : Int} (h : item? items i = some j) : j ∈ items := by
  rw [item?] at h
  split_ifs at h
  exact Array.mem_of_getElem? h

lemma mem_of_mapM_item? {items : Array Json} {is : List Int} {taken : List Json}
    (h : is.mapM (item? items) = some taken) : ∀ j ∈ taken, j ∈ items := by
  induction is generalizing taken with
  | nil =>
    cases h
    simp
  | cons i is ih =>
    rw [List.mapM_cons] at h
    obtain ⟨j, hj, h⟩ := Option.bind_eq_some_iff.1 h
    obtain ⟨rest, hrest, h⟩ := Option.bind_eq_some_iff.1 h
    cases h
    exact List.forall_mem_cons.2 ⟨mem_of_item? hj, ih hrest⟩

lemma hasChild_of_mem_slice? {o : SliceOpcode} {numbers : SliceNumbers} {taken : List Json}
    (h : j.slice? o numbers = some taken) : ∀ child ∈ taken, j.HasChild child := by
  intro child hchild
  obtain ⟨is, -, htaken⟩ := Option.bind_eq_some_iff.1 h
  have hmem := mem_of_mapM_item? htaken child hchild
  exact hasChild_of_mem_elements (List.mem_toArray.1 hmem)

end Json

/-- Every selector takes children of the node it applies to, whatever its operand is. -/
theorem Instruction.hasChild_of_select? {i : Instruction} {operand : Option Operand} {node : Json}
    {taken : List Json} (h : i.select? operand node = some taken) :
    ∀ child ∈ taken, node.HasChild child := by
  intro child hchild
  revert h
  fun_cases select? i operand node with
  | case1 _ key =>
    rintro ⟨⟩
    exact Json.hasChild_of_member? (Option.mem_toList.1 hchild)
  | case2 _ position =>
    rintro ⟨⟩
    exact Json.hasChild_of_element? (Option.mem_toList.1 hchild)
  | case3 =>
    rintro ⟨⟩
    exact Json.mem_children_iff.1 hchild
  | case4 =>
    rintro ⟨⟩
    exact Json.hasChild_of_mem_elements hchild
  | case5 =>
    intro h
    exact Json.hasChild_of_mem_slice? h child hchild
  | case6 =>
    rintro ⟨⟩
    cases hchild
  | case7 =>
    rintro ⟨⟩
    exact Json.mem_children_iff.1 (List.mem_of_mem_filter hchild)
  | case8 => rintro ⟨⟩

/-! ### Parts -/

namespace Part

/-- The number of blocks in a row of parts. -/
def blocks : List Part → Nat
  | [] => 0
  | .descend :: parts => blocks parts
  | .block _ :: parts => blocks parts + 1

@[simp] lemma blocks_append (parts others : List Part) :
    blocks (parts ++ others) = blocks parts + blocks others := by
  induction parts with
  | nil => simp [blocks]
  | cons p parts ih =>
    cases p with
    | descend => simpa [blocks] using ih
    | block body => simp [blocks, ih, Nat.add_right_comm]

/-- Where a row of parts can lead: as many steps down from the start as it has blocks, or, if it
has a `descend`, at least as many. -/
def Reaches (parts : List Part) (start node : Json) : Prop :=
  ∃ n, start.Chain n node ∧ blocks parts ≤ n ∧ (.descend ∉ parts → n = blocks parts)

variable {before : List Part} {start node child : Json}

lemma reaches_nil (start : Json) : Reaches [] start start :=
  ⟨0, .here, Nat.le_refl 0, fun _ => rfl⟩

lemma Reaches.descend (h : Reaches before start node) (hchild : child ∈ node.preorder) :
    Reaches (before ++ [.descend]) start child := by
  obtain ⟨n, hn, hle, -⟩ := h
  obtain ⟨k, hk⟩ := Json.exists_chain_of_mem_preorder hchild
  exact ⟨n + k, hn.trans hk, by simp [blocks]; omega, fun hnot => absurd (by simp) hnot⟩

lemma Reaches.block (h : Reaches before start node) (hchild : node.HasChild child)
    (body : List Instruction) : Reaches (before ++ [.block body]) start child := by
  obtain ⟨n, hn, hle, heq⟩ := h
  refine ⟨n + 1, hn.down hchild, by simpa [blocks] using hle, fun hnot => ?_⟩
  have hbefore : .descend ∉ before := fun hmem => hnot (List.mem_append_left _ hmem)
  simp [blocks, heq hbefore]

end Part

/-! ### Runs -/

/-- The places of `Standing`, with where the nodes of a state lie: those at hand, and the input of
the block that is open, behind the parts before; and what the block has taken, behind the block. -/
inductive Located (parts : List Part) (start : Json) : State → Prop
  | between (before after : List Part) (h : parts = before ++ after) {working : Array Json}
    (hworking : ∀ node ∈ working, Part.Reaches before start node) :
    Located parts start ⟨Part.sizeOfAll before, working, []⟩
  | within (before after : List Part) (done todo : List Instruction)
    (h : parts = before ++ .block (done ++ todo) :: after) {input output : Array Json}
    {turn : Nat} (hturn : turn < input.size)
    (hinput : ∀ node ∈ input, Part.Reaches before start node)
    (houtput : ∀ node ∈ output, Part.Reaches (before ++ [.block (done ++ todo)]) start node) :
    Located parts start ⟨Part.sizeOfAll before + 1 + done.length, #[],
      [⟨input, turn, output, Part.sizeOfAll before + 1⟩]⟩

/-- A node that a state keeps, at hand or in a block. -/
def State.Holds (s : State) (node : Json) : Prop :=
  node ∈ s.working ∨ ∃ block ∈ s.blocks, node ∈ block.input ∨ node ∈ block.output

namespace Located

variable {parts before after : List Part} {body : List Instruction} {start : Json}

lemma initial (parts : List Part) (start : Json) : Located parts start (.initial start) :=
  .between [] parts rfl (by simp [Part.reaches_nil])

lemma past {p : Part} {working : Array Json}
    (hworking : ∀ node ∈ working, Part.Reaches (before ++ [p]) start node) :
    Located (before ++ p :: after) start ⟨Part.sizeOfAll before + p.size, working, []⟩ := by
  have h : Located (before ++ p :: after) start _ :=
    .between (before ++ [p]) after (by simp) hworking
  simpa using h

/-- Where the begin of a block leads. -/
lemma begun {working : Array Json} (hworking : ∀ node ∈ working, Part.Reaches before start node) :
    Located (before ++ .block body :: after) start
      (if working.isEmpty then ⟨Part.sizeOfAll before + (Part.block body).size, working, []⟩
      else ⟨Part.sizeOfAll before + 1, #[], [⟨working, 0, #[], Part.sizeOfAll before + 1⟩]⟩) := by
  split_ifs with hempty
  · obtain rfl := Array.isEmpty_iff.1 hempty
    exact .past (by simp)
  · have hpos : 0 < working.size := Array.size_pos_iff.2 (by simpa using hempty)
    exact .within before after [] body rfl hpos hworking (by simp)

/-- Where the end of a block leads. -/
lemma ended {input output : Array Json} {turn : Nat}
    (hinput : ∀ node ∈ input, Part.Reaches before start node)
    (houtput : ∀ node ∈ output, Part.Reaches (before ++ [.block body]) start node) :
    Located (before ++ .block body :: after) start
      (if turn + 1 < input.size then
        ⟨Part.sizeOfAll before + 1, #[], [⟨input, turn + 1, output, Part.sizeOfAll before + 1⟩]⟩
      else ⟨Part.sizeOfAll before + (Part.block body).size, output, []⟩) := by
  split_ifs with hlast
  · exact .within before after [] body rfl hlast hinput houtput
  · exact .past houtput

/-- A step leads from located nodes to located nodes. -/
lemma step {m : Machine} (hm : m.Follows parts) {s : State} (hs : Located parts start s) :
    m.step s = .ok none ∨ ∃ i t, m.step s = .ok (some (i, t)) ∧ Located parts start t := by
  cases hs with
  | between before after h hworking =>
    subst h
    cases after with
    | nil =>
      rw [List.append_nil] at hm
      exact .inl (Machine.step_finished hm _)
    | cons p ps =>
      cases p with
      | descend =>
        refine .inr ⟨_, _, Machine.step_descend hm _, .past (p := .descend) ?_⟩
        intro node hnode
        rw [Json.descendants_eq, List.mem_toArray] at hnode
        obtain ⟨top, htop, hnode⟩ := List.mem_flatMap.1 hnode
        exact (hworking top (Array.mem_toList_iff.1 htop)).descend hnode
      | block body => exact .inr ⟨_, _, Machine.step_begin hm _, .begun hworking⟩
  | @within before after done todo h input output turn hturn hinput houtput =>
    subst h
    cases todo with
    | nil =>
      rw [List.append_nil] at hm houtput ⊢
      exact .inr ⟨_, _, Machine.step_end hm input turn output, .ended hinput houtput⟩
    | cons i todo =>
      obtain ⟨taken, htaken⟩ := (hm.answers_of_mem (i := i) (by simp)).2 input[turn]
      refine .inr ⟨_, _, Machine.step_selector hm hturn htaken output,
        .within before after (done ++ [i]) todo (by simp) hturn hinput ?_⟩
      intro node hnode
      rw [List.append_assoc, List.singleton_append]
      have hnode : node ∈ output.toList ++ taken := by simpa using Array.mem_toList_iff.2 hnode
      rcases List.mem_append.1 hnode with hnode | hnode
      · exact houtput node (Array.mem_toList_iff.1 hnode)
      · have hchild := Instruction.hasChild_of_select? htaken node hnode
        exact (hinput _ (Array.getElem_mem hturn)).block hchild _

/-- Every node of a state is one of the document where the run starts. -/
lemma exists_chain {s : State} (hs : Located parts start s) {node : Json} (hnode : s.Holds node) :
    ∃ n, start.Chain n node := by
  cases hs with
  | between before after h hworking =>
    rcases hnode with hnode | ⟨block, hblock, -⟩
    · obtain ⟨n, hn, -⟩ := hworking node hnode
      exact ⟨n, hn⟩
    · cases hblock
  | within before after done todo h hturn hinput houtput =>
    rcases hnode with hnode | ⟨block, hblock, hnode⟩
    · simp at hnode
    obtain rfl := List.mem_singleton.1 hblock
    rcases hnode with hnode | hnode
    · obtain ⟨n, hn, -⟩ := hinput node hnode
      exact ⟨n, hn⟩
    · obtain ⟨n, hn, -⟩ := houtput node hnode
      exact ⟨n, hn⟩

/-- At the end of the program all parts are behind the nodes at hand. -/
lemma reaches_of_atEnd {m : Machine} (hm : m.Follows parts) {s : State}
    (hs : Located parts start s) (hend : m.atEnd s = true) :
    ∀ node ∈ s.working, Part.Reaches parts start node := by
  have hsize : Part.sizeOfAll parts ≤ s.pc := by
    rw [← hm.size]
    simpa [Machine.atEnd] using hend
  cases hs with
  | between before after h hworking =>
    subst h
    cases after with
    | nil => simpa using hworking
    | cons p ps => cases p <;> simp [Part.size] at hsize
  | within before after done todo h => simp

end Located

lemma Machine.after_located {m : Machine} {parts : List Part} (hm : m.Follows parts) (start : Json)
    (n : Nat) : ∃ s, m.after n (.initial start) = .ok s ∧ Located parts start s := by
  induction n with
  | zero => exact ⟨_, rfl, .initial parts start⟩
  | succ n ih =>
    obtain ⟨s, hn, hs⟩ := ih
    rw [after_succ hn]
    rcases hs.step hm with hstep | ⟨i, t, hstep, ht⟩
    · exact ⟨s, after_of_end hstep 0, hs⟩
    · exact ⟨t, after_of_step hstep 0, ht⟩

/-! ### Queries -/

section Queries

variable {r : Registry} {constants : List Constant}

lemma Lays.blocks_eq {ss : List Segment} {parts : List Part} (h : Lays r constants ss parts) :
    Part.blocks parts = ss.length := by
  induction h with
  | nil => rfl
  | child _ _ ih => rw [Part.blocks, ih, List.length_cons]
  | descendant _ _ ih => rw [Part.blocks, Part.blocks, ih, List.length_cons]

lemma Lays.descend_not_mem {ss : List Segment} {parts : List Part} (h : Lays r constants ss parts)
    (hss : ∀ s ∈ ss, s.descendant = false) : .descend ∉ parts := by
  induction h with
  | nil => simp
  | child _ _ ih => simpa using ih (List.forall_mem_cons.1 hss).2
  | descendant _ _ ih => cases (List.forall_mem_cons.1 hss).1

/-- What a query is compiled to runs through the parts that its segments become. -/
lemma Registry.exists_lays_of_assemble {q : Query} {p : Program} (h : r.assemble q = .ok p)
    (root : Json) :
    ∃ constants parts, Lays r constants q parts ∧ (p.machine root).Follows parts := by
  obtain ⟨b, p', hb, hp, rfl⟩ := exists_of_assemble h
  obtain ⟨parts, hcode, -, hlays⟩ := assembleSegments_spec Builder.sound_empty hb
  obtain rfl := eq_of_program hp
  rw [Program.machine_setSource]
  exact ⟨_, parts, hlays, by simpa [Program.machine] using hcode,
    answers_of_lays hlays fun _ _ f _ => f.kept r⟩

end Queries

namespace Program

/-- **How deep results lie.** No run of a compiled query fails. Whatever the root is, every node
that a state of the run keeps is the start of the run or a value below it; and every node of the
result lies at least as many steps below the start as the query has segments, and exactly as many
if none of these is a descendant segment. -/
theorem runFrom_depth (r : Registry) (q : Query) (p : Program) (h : r.assemble q = .ok p) :
    ∀ root start : Json,
      (∀ n, ∃ s, (p.machine root).after n (.initial start) = .ok s ∧
        ∀ node, s.Holds node → ∃ depth, start.Chain depth node) ∧
      (p.machine root).run (.initial start) = .ok (p.runFrom root start).toArray ∧
      ∀ node ∈ p.runFrom root start, ∃ depth, start.Chain depth node ∧ q.length ≤ depth ∧
        ((∀ s ∈ q, s.descendant = false) → depth = q.length) := by
  intro root start
  obtain ⟨constants, parts, hlays, hm⟩ := Registry.exists_lays_of_assemble h root
  refine ⟨fun n => ?_, completes_of_assemble h root start, fun node hnode => ?_⟩
  · obtain ⟨s, hn, hs⟩ := Machine.after_located hm start n
    exact ⟨s, hn, fun node hnode => hs.exists_chain hnode⟩
  · obtain ⟨n, t, hn, hend, hrun⟩ := Machine.exists_after_atEnd hm _ (.initial parts start)
    obtain ⟨t', hn', ht⟩ := Machine.after_located hm start n
    obtain rfl := Except.ok.inj (hn.symm.trans hn')
    have hworking : node ∈ t.working := by
      rw [runFrom_eq, hrun] at hnode
      exact Array.mem_toList_iff.1 hnode
    obtain ⟨depth, hdepth, hle, heq⟩ := ht.reaches_of_atEnd hm hend node hworking
    rw [hlays.blocks_eq] at hle heq
    exact ⟨depth, hdepth, hle, fun hss => heq (hlays.descend_not_mem hss)⟩

theorem sample_runFrom_depth :
    Registry.empty.assemble Query.sample = .ok ofSample ∧ ∀ root start : Json,
      (∀ n, ∃ s, (ofSample.machine root).after n (.initial start) = .ok s ∧
        ∀ node, s.Holds node → ∃ depth, start.Chain depth node) ∧
      (ofSample.machine root).run (.initial start) = .ok (ofSample.runFrom root start).toArray ∧
      ∀ node ∈ ofSample.runFrom root start, ∃ depth, start.Chain depth node ∧
        Query.sample.length ≤ depth ∧
        ((∀ s ∈ Query.sample, s.descendant = false) → depth = Query.sample.length) :=
  ⟨assemble_sample, runFrom_depth Registry.empty _ _ assemble_sample⟩

end Program
end JsonQuery
