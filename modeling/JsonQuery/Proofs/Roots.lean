import JsonQuery.Proofs.Concatenation
import JsonQuery.Proofs.Equivariance

/-!
What a query knows of the document that it runs in. The root is handed down to every filter, and
to every query within the filters, but only a query that begins with `$` starts from it. So
without one of those, at any depth, the root makes no difference to what a query selects.
-/

namespace JsonQuery

/-- A query that begins at the root. -/
def Occurrence.IsAbsolute (o : Occurrence) : Prop := ∃ segments, o.filter = .query .root segments

/-- In the filters of a query, at any depth, no query begins at the root. -/
def Query.IsRelative (q : Query) : Prop := ∀ o, q.Occurs o → ¬ o.IsAbsolute

namespace Query.IsRelative

variable {q : Query} (r : Registry) (root root' : Json)

/-- A query from a given node depends on the root only through the filters of its segments. -/
lemma selectAll_eq {segments : List Segment}
    (h : ∀ o ∈ Query.conditions segments, ∀ node,
      o.filter.value r root node = o.filter.value r root' node) (nodes : List Json) :
    Segment.selectAll r root segments nodes = Segment.selectAll r root' segments nodes := by
  have hfilters : ∀ s ∈ segments, ∀ f, .filter f ∈ s.selectors → f.Respects r id root root' := by
    intro s hs f hf node
    rw [id, h _ (Occurrence.mem_conditions.2 ⟨s, hs, f, hf, rfl⟩)]
  have hselect := Segment.selectAll_map Json.equivariant_id hfilters nodes
  rwa [List.map_id, List.map_id] at hselect

/-- What occurs in the filters of a query has the same value from every root. -/
lemma value_eq (hq : q.IsRelative) {o : Occurrence} (ho : q.Occurs o) (node : Json) :
    o.filter.value r root node = o.filter.value r root' node := by
  induction ho using Query.Occurs.induction generalizing node with
  | step o ho ih =>
    have hrelative := hq o ho
    obtain ⟨f, usage⟩ := o
    cases f with
    | literal value => rfl
    | query origin segments =>
      -- A query from the node at hand only hands the root on to its own filters.
      cases origin with
      | root => exact absurd ⟨segments, rfl⟩ hrelative
      | current => rw [Filter.value, Filter.value, selectAll_eq r root root' ih]
    | not operand =>
      have hoperand := ih ⟨operand, .logical⟩ (by simp [Filter.operands]) node
      rw [Filter.value, Filter.value, hoperand]
    | binary op left right =>
      have hleft := ih ⟨left, op.operandUsage⟩ (by simp [Filter.operands]) node
      have hright := ih ⟨right, op.operandUsage⟩ (by simp [Filter.operands]) node
      cases op <;> simp only [Filter.value, hleft, hright]
    | call name args =>
      have hargs : Filter.values r root args node = Filter.values r root' args node := by
        rw [Filter.values_eq_map, Filter.values_eq_map]
        refine List.map_congr_left fun arg harg => ?_
        exact ih ⟨arg, .argument⟩ (List.mem_map_of_mem harg) node
      rw [Filter.value, Filter.value, hargs]

end Query.IsRelative

namespace Program

/-- **Only `$` sees the root.** A query in whose filters no query begins with `$`, at any depth,
gives a program whose runs end without a fault and select the same nodes, whatever document is
taken for the root. -/
theorem runFrom_eq_of_isRelative (r : Registry) (q : Query) (p : Program)
    (h : r.assemble q = .ok p) (hq : q.IsRelative) :
    p.Completes ∧ ∀ root root' start, p.runFrom root start = p.runFrom root' start := by
  refine ⟨completes_of_assemble h, fun root root' start => ?_⟩
  have hconditions : ∀ o ∈ q.conditions, ∀ node,
      o.filter.value r root node = o.filter.value r root' node :=
    fun _ ho => hq.value_eq r root root' (.condition ho)
  rw [runFrom_of_assemble h, runFrom_of_assemble h, Query.nodesFrom, Query.nodesFrom,
    Query.IsRelative.selectAll_eq r root root' hconditions]

lemma isRelative_sample : Query.sample.IsRelative := by
  have hoccurrences : Query.sample.occurrences =
      [⟨.not (.query .current [⟨false, [.name "b"]⟩]), .logical⟩,
        ⟨.query .current [⟨false, [.name "b"]⟩], .logical⟩] := by
    simp [Query.occurrences, Query.conditions, Query.sample, Selector.condition?,
      Occurrence.preorder_eq, Filter.operands, List.filterMap_cons]
  intro o ho
  rw [← Occurrence.mem_occurrences, hoccurrences] at ho
  rcases List.mem_pair.1 ho with rfl | rfl <;> rintro ⟨segments, ⟨⟩⟩

/-- The filter of the sample query, which holds a query from the node at hand. -/
theorem sample_runFrom_eq :
    Registry.empty.assemble Query.sample = .ok ofSample ∧ Query.sample.IsRelative ∧
      ofSample.Completes ∧
        ∀ root root' start, ofSample.runFrom root start = ofSample.runFrom root' start :=
  ⟨assemble_sample, isRelative_sample,
    runFrom_eq_of_isRelative Registry.empty _ _ assemble_sample isRelative_sample⟩

end Program
end JsonQuery
