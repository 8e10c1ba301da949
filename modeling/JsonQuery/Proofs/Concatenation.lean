import JsonQuery.Proofs.Compilation

/-!
Queries one after the other. Each segment takes from a list of nodes what it takes from the
nodes of the list in turn; so a query that is the concatenation of two selects what the second
one selects from each node of the first.
-/

namespace JsonQuery

/-! ### Meaning -/

section Select

variable (r : Registry) (root : Json)

lemma Segment.select_eq_flatMap (s : Segment) (nodes : List Json) :
    s.select r root nodes = nodes.flatMap fun node => s.select r root [node] := by
  obtain ⟨descendant, selectors⟩ := s
  cases descendant <;> simp [Segment.select, List.flatMap_assoc]

/-- Segments take from nodes what they take from each of them. -/
lemma Segment.selectAll_eq_flatMap (segments : List Segment) (nodes : List Json) :
    Segment.selectAll r root segments nodes =
      nodes.flatMap fun node => Segment.selectAll r root segments [node] := by
  induction segments generalizing nodes with
  | nil => simp [Segment.selectAll]
  | cons s ss ih =>
    calc Segment.selectAll r root (s :: ss) nodes
      _ = Segment.selectAll r root ss (nodes.flatMap fun node => s.select r root [node]) := by
        rw [Segment.selectAll, Segment.select_eq_flatMap]
      _ = nodes.flatMap fun node => (s.select r root [node]).flatMap fun node' =>
            Segment.selectAll r root ss [node'] := by
        rw [ih, List.flatMap_assoc]
      _ = nodes.flatMap fun node => Segment.selectAll r root (s :: ss) [node] := by
        simp only [Segment.selectAll, ← ih]

lemma Segment.selectAll_append (ss ts : List Segment) (nodes : List Json) :
    Segment.selectAll r root (ss ++ ts) nodes =
      Segment.selectAll r root ts (Segment.selectAll r root ss nodes) := by
  induction ss generalizing nodes with
  | nil => rfl
  | cons s ss ih => rw [List.cons_append, Segment.selectAll, Segment.selectAll, ih]

lemma Query.nodesFrom_append (p q : Query) (start : Json) :
    Query.nodesFrom r (p ++ q) root start =
      (p.nodesFrom r root start).flatMap (q.nodesFrom r root) := by
  rw [nodesFrom, Segment.selectAll_append, Segment.selectAll_eq_flatMap]
  rfl

end Select

/-! ### Programs -/

namespace Program

/-- Every run of the program ends without a fault, with the nodes that the program selects. -/
def Completes (p : Program) : Prop :=
  ∀ root start : Json, (p.machine root).run (.initial start) = .ok (p.runFrom root start).toArray

variable {r : Registry}

lemma run_of_assemble {q : Query} {p : Program} (h : r.assemble q = .ok p) (root start : Json) :
    (p.machine root).run (.initial start) = .ok (q.nodesFrom r root start).toArray := by
  obtain ⟨b, p', hb, hp', rfl⟩ := Registry.exists_of_assemble h
  exact run_of_assembleSegments (fun _ _ f _ => f.kept r) hb hp' root start

lemma runFrom_of_assemble {q : Query} {p : Program} (h : r.assemble q = .ok p)
    (root start : Json) : p.runFrom root start = q.nodesFrom r root start := by
  rw [runFrom_eq, run_of_assemble h]

lemma completes_of_assemble {q : Query} {p : Program} (h : r.assemble q = .ok p) :
    p.Completes := by
  intro root start
  rw [run_of_assemble h, runFrom_of_assemble h]

/-- **Running a concatenation.** If the concatenation of two queries is compiled, so is each of
them, and what the whole selects from a node is what the second selects from the nodes that the
first selects, one after the other. No run of the three programs ends in a fault. -/
theorem runFrom_append (r : Registry) (p q : Query) (whole : Program)
    (h : r.assemble (p ++ q) = .ok whole) :
    ∃ first second, r.assemble p = .ok first ∧ r.assemble q = .ok second ∧
      whole.Completes ∧ first.Completes ∧ second.Completes ∧
      ∀ root start, whole.runFrom root start =
        (first.runFrom root start).flatMap (second.runFrom root) := by
  obtain ⟨first, hfirst⟩ :=
    Registry.exists_assemble_of_sublist (List.sublist_append_left p q) ⟨whole, h⟩
  obtain ⟨second, hsecond⟩ :=
    Registry.exists_assemble_of_sublist (List.sublist_append_right p q) ⟨whole, h⟩
  refine ⟨first, second, hfirst, hsecond, completes_of_assemble h, completes_of_assemble hfirst,
    completes_of_assemble hsecond, fun root start => ?_⟩
  have hnodes : second.runFrom root = q.nodesFrom r root :=
    funext (runFrom_of_assemble hsecond root)
  rw [runFrom_of_assemble h, runFrom_of_assemble hfirst, hnodes, Query.nodesFrom_append]

/-- The sample query from its two segments, one with descendants and one with a filter. -/
theorem sample_runFrom_append :
    Registry.empty.assemble (Query.sample.take 1 ++ Query.sample.drop 1) = .ok ofSample ∧
      ∃ first second, Registry.empty.assemble (Query.sample.take 1) = .ok first ∧
        Registry.empty.assemble (Query.sample.drop 1) = .ok second ∧
        ofSample.Completes ∧ first.Completes ∧ second.Completes ∧
        ∀ root start, ofSample.runFrom root start =
          (first.runFrom root start).flatMap (second.runFrom root) :=
  ⟨assemble_sample, runFrom_append Registry.empty _ _ ofSample assemble_sample⟩

end Program
end JsonQuery
