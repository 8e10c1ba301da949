import JsonQuery.Function.Builtin
import JsonQuery.Proofs.Conditions

/-!
The operands of checked queries. With the functions of the standard, a query that has passed
its check compiles to a program in which both sides of a comparison have one part at most, and
each function is called with as many values as it takes, and of the kind that it takes. What
is needed of the machine is that a singular query leads to one node at most.
-/

namespace JsonQuery

/-! ### Values with one part at most -/

/-- No list of more than one node. -/
def Value.IsSingle (v : Value) : Prop := v.size ≤ 1

namespace Value

lemma isSingle_nodes {list : List Json} (h : list.length ≤ 1) : (Value.nodes list).IsSingle := h

lemma isSingle_of_isNodes {v : Value} (h : v.isNodes = false) : v.IsSingle := by
  cases v with
  | nodes list => cases h
  | _ => exact Nat.le_refl 1

lemma exists_parts_eq {v : Value} (h : v.IsSingle) (hv : v.size ≠ 0) : ∃ p, v.parts = [p] := by
  have hsize : v.size = 1 := Nat.le_antisymm h (Nat.pos_of_ne_zero hv)
  exact List.length_eq_one_iff.1 (v.length_parts.trans hsize)

end Value

/-- Of single values, one is different from another exactly if it is not equal to it. -/
lemma Operator.compare_notEqual {left right : Value} (hl : left.IsSingle) (hr : right.IsSingle) :
    Operator.notEqual.compare left right = !Operator.equal.compare left right := by
  unfold Operator.compare
  split_ifs with h
  · rfl
  · obtain ⟨hleft, hright⟩ := not_or.1 h
    obtain ⟨a, ha⟩ := Value.exists_parts_eq hl hleft
    obtain ⟨b, hb⟩ := Value.exists_parts_eq hr hright
    simp [ha, hb, Operator.holds]

/-! ### Singular queries -/

section Singular

variable (r : Registry) (root : Json)

lemma Selector.exists_select_eq_toList {s : Selector} (hs : s.isSingular = true) (node : Json) :
    ∃ found : Option Json, s.select r root node = found.toList := by
  cases s with
  | name key => exact ⟨node.member? key, rfl⟩
  | index position => exact ⟨node.element? position, rfl⟩
  | _ => cases hs

lemma length_select_le_one {s : Selector} (h : s.isSingular = true) (node : Json) :
    (s.select r root node).length ≤ 1 := by
  obtain ⟨found, hfound⟩ := Selector.exists_select_eq_toList r root h node
  rw [hfound]
  cases found <;> simp

lemma Segment.exists_of_isSingular {s : Segment} (h : s.isSingular = true) :
    ∃ selector : Selector, s = ⟨false, [selector]⟩ ∧ selector.isSingular = true := by
  obtain ⟨descendant, selectors⟩ := s
  obtain ⟨hdescendant, hselectors⟩ := Bool.and_eq_true_iff.1 h
  obtain rfl : descendant = false := by simpa using hdescendant
  match selectors with
  | [selector] => exact ⟨selector, rfl, hselectors⟩
  | [] => cases hselectors
  | _ :: _ :: _ => cases hselectors

lemma length_segment_select_le_one {s : Segment} (h : s.isSingular = true) {nodes : List Json}
    (hnodes : nodes.length ≤ 1) : (s.select r root nodes).length ≤ 1 := by
  obtain ⟨selector, rfl, hselector⟩ := Segment.exists_of_isSingular h
  match nodes with
  | [] => simp [Segment.select]
  | [node] =>
    simpa [Segment.select, Selector.selectAll] using length_select_le_one r root hselector node
  | _ :: _ :: _ => simp at hnodes

/-- **A singular query selects one node at most.** -/
theorem length_selectAll_le_one {segments : List Segment} (h : Query.isSingular segments = true)
    {nodes : List Json} (hnodes : nodes.length ≤ 1) :
    (Segment.selectAll r root segments nodes).length ≤ 1 := by
  induction segments generalizing nodes with
  | nil => exact hnodes
  | cons s ss ih =>
    obtain ⟨hs, hss⟩ := Bool.and_eq_true_iff.1 h
    exact ih hss (length_segment_select_le_one r root hs hnodes)

lemma exists_value_query (origin : Origin) (segments : List Segment) (node : Json) :
    ∃ start, Filter.value r root (.query origin segments) node =
      .nodes (Segment.selectAll r root segments [start]) := by
  cases origin with
  | root => exact ⟨root, rfl⟩
  | current => exact ⟨node, rfl⟩

end Singular

/-! ### The functions of the standard -/

/-- The functions of the standard by name. -/
inductive Builtin.IsStandard : String → Function → Prop
  | length : IsStandard "length" Builtin.length
  | count : IsStandard "count" Builtin.count
  | value : IsStandard "value" Builtin.value
  | pattern (use : PatternUse) : IsStandard (Builtin.patternName use) (Builtin.pattern use)

/-- The values that a function of the standard is made for. -/
inductive Builtin.Suits : String → List Value → Prop
  | length {v : Value} (h : v.IsSingle) : Suits "length" [v]
  | count {list : List Json} : Suits "count" [.nodes list]
  | value {list : List Json} : Suits "value" [.nodes list]
  | pattern {use : PatternUse} {text pattern : Value} : Suits (patternName use) [text, pattern]

namespace Builtin

variable {name : String} {f : Function} {args : List Filter} {usage : Usage} {compared : Bool}

lemma isStandard_of_get? (h : Registry.standard.get? name = some f) : IsStandard name f := by
  obtain ⟨before, after, hentries, -⟩ := List.lookup_eq_some_iff.1 h
  have hmem : (name, f) ∈ Registry.standard.entries := by simp [hentries]
  simp only [Registry.standard, List.mem_cons, Prod.mk.injEq, List.not_mem_nil, or_false] at hmem
  obtain ⟨rfl, rfl⟩ | ⟨rfl, rfl⟩ | ⟨rfl, rfl⟩ | ⟨rfl, rfl⟩ | ⟨rfl, rfl⟩ := hmem
  · exact .length
  · exact .count
  · exact .value
  · exact .pattern .whole
  · exact .pattern .part

/-- No function of the standard gives nodes. -/
lemma isNodes_evaluate (h : IsStandard name f) (values : List Value) :
    (f.evaluate values).isNodes = false := by
  cases h with
  | length =>
    simp only [length, lengthOf]
    split
    · split <;> rfl
    · rfl
  | count =>
    simp only [count, countOf]
    split <;> rfl
  | value =>
    simp only [value, valueOf]
    split
    · rfl
    · rfl
    · rename_i arg _ hnodes
      cases arg with
      | nodes list => exact absurd rfl (hnodes list)
      | _ => rfl
    · rfl
  | pattern use =>
    simp only [pattern, matchOf]
    split
    · rename_i text pattern _
      cases Regex.parse? pattern <;> rfl
    · rfl

/-- `count` gives a number where it is used as it is meant. -/
lemma exists_count {values : List Value} (h : IsStandard name f) (h' : Suits name values)
    (hname : name = "count") : ∃ n : Nat, f.evaluate values = .count n := by
  cases h' with
  | count =>
    generalize hn : "count" = n at h
    cases h with
    | count => exact ⟨_, rfl⟩
    | pattern use => cases use <;> simp [patternName] at hn
    | _ => simp at hn
  | pattern => rename_i use _ _; cases use <;> simp [patternName] at hname
  | _ => simp at hname

lemma length_eq_of_requireArity {expected : Nat} (h : requireArity name args expected = .ok ()) :
    args.length = expected := by
  rw [requireArity] at h
  split_ifs at h with hlength
  exact hlength

lemma exists_query_of_requireQuery (h : requireQuery name args = .ok ()) :
    ∃ origin segments rest, args = .query origin segments :: rest := by
  rw [requireQuery.eq_def] at h
  split at h
  · exact ⟨_, _, _, rfl⟩
  · cases h

lemma isSingular_of_requireSingular {origin : Origin} {segments : List Segment}
    (h : requireSingular name [.query origin segments] = .ok ()) :
    Query.isSingular segments = true := by
  rw [requireSingular] at h
  split_ifs at h with hsingular
  exact hsingular

end Builtin

/-! ### Expressions that obey their rules -/

section Obeys

open Builtin

variable (root node : Json)

/-- Only queries give nodes. -/
lemma isNodes_value {f : Filter} (hf : ∀ origin segments, f ≠ .query origin segments) :
    (f.value .standard root node).isNodes = false := by
  cases f with
  | literal value => rfl
  | query origin segments => exact absurd rfl (hf origin segments)
  | not operand => rfl
  | binary op left right => cases op <;> rfl
  | call name args =>
    rw [Filter.value]
    split
    · rename_i function hget
      exact isNodes_evaluate (isStandard_of_get? hget) _
    · rfl

lemma isSingle_value {f : Filter} (h : ∀ origin segments, f = .query origin segments →
    Query.isSingular segments = true) : (f.value .standard root node).IsSingle := by
  by_cases hf : ∃ origin segments, f = .query origin segments
  · obtain ⟨origin, segments, rfl⟩ := hf
    obtain ⟨start, heq⟩ := exists_value_query .standard root origin segments node
    rw [heq]
    exact Value.isSingle_nodes (length_selectAll_le_one _ _ (h origin segments rfl) (by simp))
  · exact Value.isSingle_of_isNodes (isNodes_value root node fun origin segments heq =>
      hf ⟨origin, segments, heq⟩)

/-- An operand of a comparison that obeys its rule has one part at most. -/
lemma isSingle_of_obeys {f : Filter}
    (h : Occurrence.Obeys .standard ⟨f, .comparisonOperand⟩) :
    (f.value .standard root node).IsSingle := by
  refine isSingle_value root node fun origin segments heq => ?_
  subst heq
  exact h rfl

/-- The argument is a list of nodes where a query is required. -/
lemma exists_values_of_requireQuery {name : String} {args : List Filter}
    (hlength : args.length = 1) (h : requireQuery name args = .ok ()) :
    ∃ list, Filter.values .standard root args node = [.nodes list] := by
  obtain ⟨origin, segments, rest, rfl⟩ := exists_query_of_requireQuery h
  obtain rfl : rest = [] := by simpa using hlength
  obtain ⟨start, heq⟩ := exists_value_query .standard root origin segments node
  exact ⟨_, by rw [Filter.values, heq, Filter.values]⟩

/-- A call that obeys its rule is one with the right values. -/
lemma suits_of_obeys {name : String} {args : List Filter} {usage : Usage}
    (h : Occurrence.Obeys .standard ⟨.call name args, usage⟩) :
    Suits name (Filter.values .standard root args node) := by
  obtain ⟨f, hget, hcheck⟩ := h
  cases isStandard_of_get? hget with
  | length =>
    obtain ⟨⟨⟩, harity, hcheck⟩ := bind_eq_ok hcheck
    obtain ⟨⟨⟩, -, hsingular⟩ := bind_eq_ok hcheck
    obtain ⟨arg, rfl⟩ := List.length_eq_one_iff.1 (length_eq_of_requireArity harity)
    refine .length (isSingle_value root node fun origin segments heq => ?_)
    subst heq
    exact isSingular_of_requireSingular hsingular
  | count =>
    obtain ⟨⟨⟩, harity, hcheck⟩ := bind_eq_ok hcheck
    obtain ⟨⟨⟩, -, hquery⟩ := bind_eq_ok hcheck
    obtain ⟨list, heq⟩ :=
      exists_values_of_requireQuery root node (length_eq_of_requireArity harity) hquery
    exact heq ▸ .count
  | value =>
    obtain ⟨⟨⟩, harity, hcheck⟩ := bind_eq_ok hcheck
    obtain ⟨⟨⟩, -, hquery⟩ := bind_eq_ok hcheck
    obtain ⟨list, heq⟩ :=
      exists_values_of_requireQuery root node (length_eq_of_requireArity harity) hquery
    exact heq ▸ .value
  | pattern use =>
    obtain ⟨⟨⟩, harity, -⟩ := bind_eq_ok hcheck
    obtain ⟨text, pattern, rfl⟩ := List.length_eq_two.1 (length_eq_of_requireArity harity)
    exact .pattern

end Obeys

/-! ### Compiled conditions -/

/-- What a comparison or a call is given when it is evaluated: the sides of a comparison have
one part at most, so that `!=` is the negation of `==`; and a function of the standard gets
values that it is made for, so that `count` gives a number. -/
def Condition.OperandsFit (root node : Json) : Condition → Prop
  | .compare _ left right =>
    (left.evaluate root node).IsSingle ∧ (right.evaluate root node).IsSingle ∧
      Condition.evaluate root (.compare .notEqual left right) node =
        .bool !(Condition.evaluate root (.compare .equal left right) node).isTrue
  | .call name function args =>
    let values := Condition.evaluateAll root args node
    Builtin.IsStandard name function ∧ Builtin.Suits name values ∧
      (name = "count" → ∃ n : Nat, function.evaluate values = .count n)
  | _ => True

/-- **Nothing is evaluated on operands that it is not meant for.** This holds of all that the
program of a checked query evaluates, the programs in its filters included, at every node of
every document. -/
theorem Program.operands_fit (q : Query) (p : Program)
    (hq : Registry.standard.checkUsage q = .ok ()) (hp : Registry.standard.assemble q = .ok p)
    (c : Condition) (hc : p.Holds c) (root node : Json) : c.OperandsFit root node := by
  have hobeys := (Registry.checkUsage_eq_ok_iff _ q).1 hq
  obtain ⟨o, ho, hoc⟩ := hc.exists_occurs hp
  obtain ⟨f, usage⟩ := o
  cases Registry.compiles_of_assembleFilter hoc with
  | @compare op left right l l' hop hl hl' =>
    have husage : op.operandUsage = .comparisonOperand := if_pos hop
    have hleft : (l.evaluate root node).IsSingle := by
      rw [left.kept .standard l hl]
      exact isSingle_of_obeys root node (hobeys _ (ho.operand (husage ▸ List.mem_cons_self)))
    have hright : (l'.evaluate root node).IsSingle := by
      rw [right.kept .standard l' hl']
      exact isSingle_of_obeys root node
        (hobeys _ (ho.operand (husage ▸ List.mem_cons_of_mem _ List.mem_cons_self)))
    refine ⟨hleft, hright, ?_⟩
    rw [Condition.evaluate, Condition.evaluate, Operator.compare_notEqual hleft hright]
    rfl
  | call hget hargs =>
    have hstandard := Builtin.isStandard_of_get? hget
    have hsuits := suits_of_obeys root node (hobeys _ ho)
    rw [← evaluateAll_of_assembleArguments (fun arg _ => arg.kept .standard) hargs] at hsuits
    exact ⟨hstandard, hsuits, Builtin.exists_count hstandard hsuits⟩
  | _ => trivial

/-- A query in whose filter another filter compares a count. -/
def Query.counting : Query :=
  [⟨false, [.filter (.query .current [⟨false, [.filter (.binary .notEqual
    (.call "count" [.query .root [⟨false, [.wildcard]⟩]]) (.literal .null))]⟩])]⟩]

/-- The inner condition of that query, compiled. -/
def Condition.ofCounting : Condition :=
  .compare .notEqual (.call "count" Builtin.count [.query .root
    ⟨[.blockBegin 2, .selectWildcard, .blockEnd], [], some "[*]"⟩]) (.literal .null)

def Program.ofCounting : Program where
  code := [.blockBegin 2, .selectFilter 0, .blockEnd]
  constants := [.filter (.query .current ⟨[.blockBegin 2, .selectFilter 0, .blockEnd],
    [.filter .ofCounting], some "[?count($[*]) != null]"⟩)]
  source := some "$[?@[?count($[*]) != null]]"

theorem Program.counting_operands_fit :
    Registry.standard.checkUsage Query.counting = .ok () ∧
      Registry.standard.assemble Query.counting = .ok Program.ofCounting ∧
      Program.ofCounting.Holds .ofCounting ∧
      ∀ root node, Condition.ofCounting.OperandsFit root node := by
  have hq : Registry.standard.checkUsage Query.counting = .ok () := rfl
  have hp : Registry.standard.assemble Query.counting = .ok Program.ofCounting := rfl
  have hc : Program.ofCounting.Holds .ofCounting :=
    .operand (.condition List.mem_cons_self) List.mem_cons_self
  exact ⟨hq, hp, hc, Program.operands_fit _ _ hq hp _ hc⟩

end JsonQuery
