import JsonQuery.Proofs.Lowering
import JsonQuery.Proofs.Rounds
import JsonQuery.Proofs.Safety
import JsonQuery.Semantics.Basic

/-!
Compiled queries mean what the queries mean. A block takes from a node what the selectors of
its segment take from it, hence the parts of a program apply as the segments do; and a filter
evaluates to its value, by induction on the filter, since the query of a filter is compiled to
a program in its turn.
-/

namespace JsonQuery

variable {r : Registry} {p : Program} {root : Json}

/-- What compiling makes of a filter evaluates to the value of the filter. -/
def Filter.Kept (r : Registry) (f : Filter) : Prop :=
  ∀ condition, r.assembleFilter f = .ok condition →
    ∀ root node, condition.evaluate root node = f.value r root node

/-- This holds of all filters of the segments. -/
def Segment.FiltersKept (r : Registry) (segments : List Segment) : Prop :=
  ∀ s ∈ segments, ∀ f, .filter f ∈ s.selectors → f.Kept r

/-! ### Selectors -/

lemma select?_of_lowered {s : Selector} {i : Instruction} (h : Lowered r p.constants s i)
    (hkept : ∀ f, s = .filter f → f.Kept r) (node : Json) :
    i.select? ((p.machine root).operand? i) node = some (s.select r root node) := by
  cases h with
  | name hc =>
    rw [p.machine_operand? root rfl, hc]
    rfl
  | index hc =>
    rw [p.machine_operand? root rfl, hc]
    rfl
  | wildcard => rfl
  | nothing hs =>
    rw [Selector.select, Slice.elements_of_form_nothing hs]
    rfl
  | everything hs =>
    rw [Selector.select, Slice.elements_of_form_everything hs]
    rfl
  | slice hs hc =>
    rw [p.machine_operand? root rfl, hc, Selector.select]
    exact Slice.slice?_of_form hs node
  | @filter f condition c hf hc =>
    have hvalue : ∀ child, condition.evaluate root child = f.value r root child :=
      hkept f rfl condition hf root
    rw [p.machine_operand? root rfl, hc, Selector.select]
    simp [Constant.operand, Instruction.select?, hvalue]

lemma isSelector_of_lowered {constants : List Constant} {s : Selector} {i : Instruction}
    (h : Lowered r constants s i) : i.isSelector = true := by
  cases h <;> rfl

lemma answers_of_lowered {ss : List Selector} {body : List Instruction}
    (h : List.Forall₂ (Lowered r p.constants) ss body) (hkept : ∀ f, .filter f ∈ ss → f.Kept r) :
    ∀ i ∈ body, (p.machine root).Answers i := by
  induction h with
  | nil => simp
  | @cons s i ss body hs _ ih =>
    refine List.forall_mem_cons.2 ⟨⟨isSelector_of_lowered hs, fun node => ?_⟩, ?_⟩
    · exact ⟨_, select?_of_lowered hs (fun f hf => hkept f (by simp [hf])) node⟩
    · exact ih fun f hf => hkept f (by simp [hf])

/-- A block takes from a node what the selectors take. -/
lemma takes_of_lowered {ss : List Selector} {body : List Instruction}
    (h : List.Forall₂ (Lowered r p.constants) ss body) (hkept : ∀ f, .filter f ∈ ss → f.Kept r)
    (node : Json) :
    body.flatMap ((p.machine root).takes node) = Selector.selectAll r root ss node := by
  induction h with
  | nil => rfl
  | @cons s i ss body hs _ ih =>
    have hi : (p.machine root).takes node i = s.select r root node := by
      rw [Machine.takes, select?_of_lowered hs (fun f hf => hkept f (by simp [hf])),
        Option.getD_some]
    rw [List.flatMap_cons, hi, ih fun f hf => hkept f (by simp [hf]), Selector.selectAll]

/-! ### Segments -/

lemma answers_of_lays {ss : List Segment} {parts : List Part} (h : Lays r p.constants ss parts)
    (hkept : Segment.FiltersKept r ss) :
    ∀ body, .block body ∈ parts → ∀ i ∈ body, (p.machine root).Answers i := by
  induction h with
  | nil => simp
  | @child selectors body ss parts hbody _ ih =>
    obtain ⟨hs, hss⟩ := List.forall_mem_cons.1 hkept
    have hrest := ih hss
    intro body' hmem
    rcases List.mem_cons.1 hmem with heq | hmem
    · cases heq
      exact answers_of_lowered hbody hs
    · exact hrest body' hmem
  | @descendant selectors body ss parts hbody _ ih =>
    obtain ⟨hs, hss⟩ := List.forall_mem_cons.1 hkept
    have hrest := ih hss
    intro body' hmem
    rcases List.mem_cons.1 hmem with heq | hmem
    · cases heq
    rcases List.mem_cons.1 hmem with heq | hmem
    · cases heq
      exact answers_of_lowered hbody hs
    · exact hrest body' hmem

/-- The parts of a program apply as the segments do. -/
lemma applyAll_of_lays {ss : List Segment} {parts : List Part} (h : Lays r p.constants ss parts)
    (hkept : Segment.FiltersKept r ss) (nodes : List Json) :
    Part.applyAll (p.machine root) parts nodes = Segment.selectAll r root ss nodes := by
  induction h generalizing nodes with
  | nil => rfl
  | @child selectors body _ _ hbody _ ih =>
    obtain ⟨hs, hss⟩ := List.forall_mem_cons.1 hkept
    have hblock : ∀ node, body.flatMap ((p.machine root).takes node) =
        Selector.selectAll r root selectors node := takes_of_lowered hbody hs
    rw [Part.applyAll, ih hss, Segment.selectAll, Segment.select, Part.apply]
    simp only [hblock]
    rfl
  | @descendant selectors body _ _ hbody _ ih =>
    obtain ⟨hs, hss⟩ := List.forall_mem_cons.1 hkept
    have hblock : ∀ node, body.flatMap ((p.machine root).takes node) =
        Selector.selectAll r root selectors node := takes_of_lowered hbody hs
    rw [Part.applyAll, Part.applyAll, ih hss, Segment.selectAll, Segment.select, Part.apply,
      Part.apply]
    simp only [hblock]
    rfl

/-- A program that has been assembled from segments selects what they select. -/
theorem run_of_assembleSegments {segments : List Segment} (hkept : Segment.FiltersKept r segments)
    {b : Builder} (hb : r.assembleSegments {} segments = .ok b) (hp : b.program = .ok p)
    (root start : Json) :
    (p.machine root).run (.initial start) =
      .ok (Segment.selectAll r root segments [start]).toArray := by
  obtain ⟨parts, hcode, -, hparts⟩ := Registry.assembleSegments_spec Builder.sound_empty hb
  obtain rfl := eq_of_program hp
  have hfollows : (Program.machine ⟨b.code.toList, b.constants.toList, none⟩ root).Follows
      ([] ++ parts) :=
    ⟨by simpa [Program.machine] using hcode, answers_of_lays hparts hkept⟩
  calc Machine.run _ (.initial start)
    _ = .ok (Part.applyAll _ parts [start]).toArray := Machine.run_eq_applyAll hfollows #[start]
    _ = .ok (Segment.selectAll r root segments [start]).toArray := by
      rw [applyAll_of_lays hparts hkept]

lemma Program.machine_setSource (p : Program) (source : String) (root : Json) :
    (p.setSource source).machine root = p.machine root := rfl

/-! ### Filters -/

lemma evaluateAll_of_assembleArguments {args : List Filter} {conditions : List Condition}
    (hkept : ∀ arg ∈ args, Filter.Kept r arg) (h : r.assembleArguments args = .ok conditions)
    (root node : Json) :
    Condition.evaluateAll root conditions node = Filter.values r root args node := by
  induction args generalizing conditions with
  | nil =>
    cases h
    rfl
  | cons arg args ih =>
    rw [Registry.assembleArguments] at h
    obtain ⟨condition, harg, hrest⟩ := bind_eq_ok h
    obtain ⟨conditions', hargs, hrest⟩ := bind_eq_ok hrest
    cases hrest
    obtain ⟨hkeep, hkept⟩ := List.forall_mem_cons.1 hkept
    rw [Condition.evaluateAll, Filter.values, hkeep condition harg, ih hkept hargs]

/-- **Filters keep their values**, those with queries and calls in them included. -/
theorem Filter.kept (r : Registry) (f : Filter) : f.Kept r := by
  induction f using Filter.induction with
  | literal value =>
    intro condition h root node
    cases h
    rfl
  | query origin segments ih =>
    intro condition h root node
    rw [Registry.assembleFilter] at h
    obtain ⟨b, hb, hrest⟩ := bind_eq_ok h
    obtain ⟨p, hp, hrest⟩ := bind_eq_ok hrest
    cases hrest
    rw [Condition.evaluate, Program.runFrom_eq, Program.machine_setSource,
      run_of_assembleSegments ih hb hp]
    cases origin <;> rfl
  | not operand ih =>
    intro condition h root node
    rw [Registry.assembleFilter] at h
    obtain ⟨inner, hinner, hrest⟩ := bind_eq_ok h
    cases hrest
    rw [Condition.evaluate, Filter.value, ih inner hinner]
  | binary op left right ihl ihr =>
    intro condition h root node
    rw [Registry.assembleFilter] at h
    obtain ⟨l, hl, hrest⟩ := bind_eq_ok h
    obtain ⟨r', hr, hrest⟩ := bind_eq_ok hrest
    have hl' := ihl l hl root node
    have hr' := ihr r' hr root node
    cases op <;> cases hrest <;> simp [Condition.evaluate, Filter.value, hl', hr']
  | call name args ih =>
    intro condition h root node
    rw [Registry.assembleFilter] at h
    split at h
    · cases h
    · rename_i f hf
      obtain ⟨conditions, hargs, hrest⟩ := bind_eq_ok h
      cases hrest
      rw [Condition.evaluate, Filter.value, hf, evaluateAll_of_assembleArguments ih hargs]

/-! ### Queries -/

/-- **Compiling preserves meaning.** A query that is compiled, checked or not, gives a program
that runs without a fault, on every document and from every node, to the nodes that the query
means, in order and with repetitions. -/
theorem Program.run_eq_nodesFrom (r : Registry) (q : Query) (p : Program)
    (h : r.assemble q = .ok p) (root start : Json) :
    (p.machine root).run (.initial start) = .ok (q.nodesFrom r root start).toArray ∧
      p.runFrom root start = q.nodesFrom r root start := by
  rw [Registry.assemble] at h
  obtain ⟨b, hb, hrest⟩ := bind_eq_ok h
  obtain ⟨p', hp, hrest⟩ := bind_eq_ok hrest
  cases hrest
  have hrun : ((p'.setSource (Query.text q)).machine root).run (.initial start) =
      .ok (q.nodesFrom r root start).toArray := by
    rw [machine_setSource]
    exact run_of_assembleSegments (fun _ _ f _ => f.kept r) hb hp root start
  refine ⟨hrun, ?_⟩
  rw [runFrom_eq, hrun]

/-- A query with a shared name and a filter that holds a query of its own. -/
def Query.sample : Query :=
  [⟨true, [.name "a", .index (-1), .name "a", .slice ⟨none, some 2, -1⟩]⟩,
    ⟨false, [.filter (.not (.query .current [⟨false, [.name "b"]⟩]))]⟩]

/-- What the sample query is compiled to. -/
def Program.ofSample : Program where
  code := [.descend, .blockBegin 6, .selectName 0, .selectIndex 1, .selectName 0,
    .slice ⟨.backward, .absent, .fromStart⟩ 2, .blockEnd, .blockBegin 9, .selectFilter 3,
    .blockEnd]
  constants := [.name "a", .index (-1), .slice ⟨0, 2, -1⟩,
    .filter (.not (.query .current
      ⟨[.blockBegin 2, .selectName 0, .blockEnd], [.name "b"], some "['b']"⟩))]
  source := some "$..['a', -1, 'a', :2:-1][?!@['b']]"

lemma assemble_sample : Registry.empty.assemble Query.sample = .ok Program.ofSample := by
  have hinner : Program.verify [.blockBegin 2, .selectName 0, .blockEnd] [.name "b"] = .ok () := rfl
  have houter : Program.verify Program.ofSample.code Program.ofSample.constants = .ok () := rfl
  have htext : Query.text Query.sample = "$..['a', -1, 'a', :2:-1][?!@['b']]" := rfl
  have htext' : String.ofList (Segment.charsOfAll [⟨false, [.name "b"]⟩]) = "['b']" := rfl
  simp only [Program.ofSample, Query.sample] at houter htext ⊢
  simp [Registry.assemble, Registry.assembleSegments, Registry.assembleSelectors,
    Registry.assembleSelector, Registry.assembleFilter, Builder.startSegment, Builder.append,
    Builder.openBlock, Builder.appendWith, Builder.intern, Constant.shared?, Builder.appendSlice,
    Slice.form, Slice.numbers, Builder.finishSegment, Builder.closeBlock, Quota.limit,
    Builder.program, Program.ofParts, Std.HashMap.getElem?_insert, bind, Except.bind, Bound.of,
    pure, Except.pure, Program.setSource, Except.mapError, hinner, houter, htext, htext']

theorem Query.sample_runs :
    Registry.empty.assemble Query.sample = .ok Program.ofSample ∧ ∀ root start : Json,
      (Program.ofSample.machine root).run (.initial start) =
          .ok (Query.sample.nodesFrom Registry.empty root start).toArray ∧
        Program.ofSample.runFrom root start = Query.sample.nodesFrom Registry.empty root start :=
  ⟨assemble_sample, Program.run_eq_nodesFrom _ _ _ assemble_sample⟩

end JsonQuery
