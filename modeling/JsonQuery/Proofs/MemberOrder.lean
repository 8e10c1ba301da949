import JsonQuery.Proofs.Concatenation
import JsonQuery.Proofs.Operands
import JsonQuery.Proofs.Reordering

/-!
The order in which members are stored does not matter. Equality of documents, comparison of
values, the functions of the standard and so all filters give for sorted documents what they
give for the documents themselves, with scalars and nodes sorted. So queries on two documents
that are equal up to the order of members select nodes that are so too, one by one.
-/

namespace JsonQuery

namespace Json

/-! ### Equality -/

lemma itemsEqual_map {φ : Json → Json} {as : List Json}
    (h : ∀ a ∈ as, ∀ b : Json, (φ a).equal (φ b) = a.equal b) (bs : List Json) :
    itemsEqual (as.map φ) (bs.map φ) = itemsEqual as bs := by
  induction as generalizing bs with
  | nil => cases bs <;> rfl
  | cons a as ih =>
    obtain ⟨ha, has⟩ := List.forall_mem_cons.1 h
    cases bs with
    | nil => rfl
    | cons b bs =>
      rw [List.map_cons, List.map_cons, itemsEqual, itemsEqual, ha, ih has]

lemma membersEqual_map {φ : Json → Json} {as : List (String × Json)}
    (h : ∀ m ∈ as, ∀ b : Json, (φ m.2).equal (φ b) = m.2.equal b) (bs : List (String × Json)) :
    membersEqual (as.map (Prod.map id φ)) (bs.map (Prod.map id φ)) = membersEqual as bs := by
  induction as with
  | nil => rfl
  | cons m as ih =>
    obtain ⟨hm, has⟩ := List.forall_mem_cons.1 h
    obtain ⟨name, a⟩ := m
    rw [List.map_cons, Prod.map_apply, membersEqual, membersEqual, ih has, id, lookup_map]
    cases bs.lookup name with
    | none => rfl
    | some b => rw [Option.map_some]; exact congrArg (· && _) (hm b)

lemma membersEqual_eq_all (as bs : List (String × Json)) :
    membersEqual as bs = as.all fun m => (bs.lookup m.1).any m.2.equal := by
  induction as with
  | nil => rfl
  | cons m as ih =>
    obtain ⟨name, a⟩ := m
    rw [membersEqual, ih, List.all_cons]
    cases bs.lookup name <;> rfl

/-- Members are looked up by name, so neither side need be in a particular order. -/
lemma membersEqual_sortByName (as bs : List (String × Json)) :
    membersEqual (sortByName as) (sortByName bs) = membersEqual as bs := by
  rw [membersEqual_eq_all, membersEqual_eq_all, (sortByName_perm as).all_eq]
  simp only [lookup_sortByName]

/-- Equality of documents does not see the order of members. -/
lemma equal_sorted (a b : Json) : a.sorted.equal b.sorted = a.equal b := by
  induction a using Json.induction generalizing b with
  | array as ih =>
    cases b with
    | array bs => rw [sorted_array, sorted_array, equal, equal, itemsEqual_map ih]
    | object bs => rw [sorted_array, sorted_object]; rfl
    | _ => rw [sorted_array]; rfl
  | object as ih =>
    cases b with
    | object bs =>
      rw [sorted_object, sorted_object, equal, equal, membersEqual_sortByName,
        membersEqual_map ih, (sortByName_perm _).length_eq, (sortByName_perm _).length_eq,
        List.length_map, List.length_map]
    | array bs => rw [sorted_array, sorted_object]; rfl
    | _ => rw [sorted_object]; rfl
  | _ =>
    cases b with
    | array bs => rw [sorted_array]; rfl
    | object bs => rw [sorted_object]; rfl
    | _ => rfl

lemma order?_sorted (a b : Json) : a.sorted.order? b.sorted = a.order? b := by
  cases a <;> cases b <;> rfl

end Json

/-! ### Values -/

/-- A value with the members sorted in its scalar or its nodes. -/
def Value.sorted : Value → Value
  | .nothing => .nothing
  | .scalar j => .scalar j.sorted
  | .nodes list => .nodes (list.map Json.sorted)

namespace Value

lemma isTrue_sorted (v : Value) : v.sorted.isTrue = v.isTrue := by
  cases v with
  | nothing => rfl
  | scalar j => cases j <;> rfl
  | nodes list => simp [sorted, isTrue]

lemma parts_sorted (v : Value) : v.sorted.parts = v.parts.map (Option.map Json.sorted) := by
  cases v <;> simp [sorted, parts, Function.comp_def]

lemma size_sorted (v : Value) : v.sorted.size = v.size := by
  cases v <;> simp [sorted, size]

lemma isAbsent_sorted (v : Value) : v.sorted.isAbsent = v.isAbsent := by
  cases v <;> simp [sorted, isAbsent]

lemma single?_sorted (v : Value) : v.sorted.single? = v.single?.map Json.sorted := by
  match v with
  | .nothing => rfl
  | .scalar j => rfl
  | .nodes [] => rfl
  | .nodes [node] => rfl
  | .nodes (_ :: _ :: _) => rfl

lemma string?_sorted (v : Value) : v.sorted.string? = v.string? := by
  rw [string?, string?, single?_sorted]
  cases v.single? with
  | none => rfl
  | some j => cases j <;> rfl

end Value

namespace Operator

lemma holds_sorted (op : Operator) (a b : Option Json) :
    op.holds (a.map Json.sorted) (b.map Json.sorted) = op.holds a b := by
  have hequal : partsEqual (a.map Json.sorted) (b.map Json.sorted) = partsEqual a b := by
    cases a <;> cases b <;> simp [partsEqual, Json.equal_sorted]
  have horder : partsOrder? (a.map Json.sorted) (b.map Json.sorted) = partsOrder? a b := by
    cases a <;> cases b <;> simp [partsOrder?, Json.order?_sorted]
  cases op <;> simp only [holds, hequal, horder]

lemma compare_sorted (op : Operator) (left right : Value) :
    op.compare left.sorted right.sorted = op.compare left right := by
  simp only [compare, Value.size_sorted, Value.isAbsent_sorted, Value.parts_sorted, List.any_map,
    Function.comp_def, holds_sorted]

end Operator

/-! ### Functions -/

/-- Functions to which the order of members makes no difference. -/
def Registry.IgnoresOrder (r : Registry) : Prop :=
  ∀ name f, r.get? name = some f → ∀ values : List Value,
    f.evaluate (values.map Value.sorted) = (f.evaluate values).sorted

namespace Builtin

lemma lengthOf_sorted (values : List Value) :
    lengthOf (values.map Value.sorted) = (lengthOf values).sorted := by
  match values with
  | [] => rfl
  | _ :: _ :: _ => rfl
  | [v] =>
    rw [List.map_singleton, lengthOf, lengthOf, Value.single?_sorted]
    cases v.single? with
    | none => rfl
    | some j =>
      cases j with
      | array items => simp only [Option.map_some, Json.sorted_array, List.length_map]; rfl
      | object members =>
        simp only [Option.map_some, Json.sorted_object, (Json.sortByName_perm _).length_eq,
          List.length_map]
        rfl
      | _ => rfl

lemma countOf_sorted (values : List Value) :
    countOf (values.map Value.sorted) = (countOf values).sorted := by
  match values with
  | [] => rfl
  | v :: _ :: _ => cases v <;> rfl
  | [.nothing] => rfl
  | [.scalar j] => rfl
  | [.nodes list] =>
    rw [List.map_singleton, Value.sorted, countOf, countOf, List.length_map]
    rfl

lemma valueOf_sorted (values : List Value) :
    valueOf (values.map Value.sorted) = (valueOf values).sorted := by
  match values with
  | [] => rfl
  | .nothing :: _ :: _ => rfl
  | .scalar _ :: _ :: _ => rfl
  | .nodes [] :: _ :: _ => rfl
  | .nodes [_] :: _ :: _ => rfl
  | .nodes (_ :: _ :: _) :: _ :: _ => rfl
  | [.nothing] => rfl
  | [.scalar j] => rfl
  | [.nodes []] => rfl
  | [.nodes [node]] => rfl
  | [.nodes (_ :: _ :: _)] => rfl

lemma patternArgs_sorted (use : PatternUse) (values : List Value) :
    patternArgs use (values.map Value.sorted) = patternArgs use values := by
  match values with
  | [] => rfl
  | [_] => rfl
  | [text, pattern] =>
    rw [List.map_cons, List.map_singleton, patternArgs, patternArgs, Value.string?_sorted,
      Value.string?_sorted]
  | _ :: _ :: _ :: _ => rfl

lemma matchOf_sorted (use : PatternUse) (values : List Value) :
    matchOf use (values.map Value.sorted) = (matchOf use values).sorted := by
  rw [matchOf, matchOf, patternArgs_sorted]
  cases patternArgs use values with
  | none => rfl
  | some found =>
    simp only [matchValue]
    cases Regex.parse? found.2 <;> rfl

end Builtin

/-- The functions of the standard do not see the order of members. -/
lemma Registry.ignoresOrder_standard : Registry.standard.IgnoresOrder := by
  intro name f hf values
  cases Builtin.isStandard_of_get? hf with
  | length => exact Builtin.lengthOf_sorted values
  | count => exact Builtin.countOf_sorted values
  | value => exact Builtin.valueOf_sorted values
  | pattern use => exact Builtin.matchOf_sorted use values

/-! ### Filters and queries -/

lemma Literal.sorted_json (value : Literal) : value.json.sorted = value.json := by
  cases value with
  | number x =>
    cases x with
    | finite x => rw [Literal.json]; cases x.toInt? <;> rfl
    | _ => rfl
  | _ => rfl

section Select

variable {r : Registry} (hr : r.IgnoresOrder) (root : Json)
include hr

/-- **Filters do not see the order of members**: at a sorted node of a sorted document, their
value is the sorted value. -/
theorem Filter.value_sorted (f : Filter) (node : Json) :
    f.value r root.sorted node.sorted = (f.value r root node).sorted := by
  induction f using Filter.induction generalizing node with
  | literal l => rw [value, value, Value.sorted, l.sorted_json]
  | query origin segments ih =>
    -- Within, the filters accept the same nodes, so what is selected goes along with sorting.
    have hselect := Segment.selectAll_map Json.equivariant_sorted
      (fun s hs f hf node => by rw [ih s hs f hf node, Value.isTrue_sorted])
    cases origin with
    | root => rw [value, value, Value.sorted, ← hselect, List.map_singleton]
    | current => rw [value, value, Value.sorted, ← hselect, List.map_singleton]
  | not operand ih => rw [value, value, ih, Value.isTrue_sorted]; rfl
  | binary op left right ihl ihr =>
    cases op <;>
      simp only [value, ihl, ihr, Value.isTrue_sorted, Operator.compare_sorted] <;> rfl
  | call name args ih =>
    have hargs : Filter.values r root.sorted args node.sorted =
        (Filter.values r root args node).map Value.sorted := by
      rw [values_eq_map, values_eq_map, List.map_map]
      exact List.map_congr_left fun arg harg => ih arg harg node
    rw [value, value, hargs]
    cases hf : r.get? name with
    | none => rfl
    | some f => exact hr name f hf _

lemma Query.nodesFrom_sorted (q : Query) (start : Json) :
    q.nodesFrom r root.sorted start.sorted = (q.nodesFrom r root start).map Json.sorted :=
  Segment.selectAll_map Json.equivariant_sorted
    (fun _ _ f _ node => by rw [f.value_sorted hr, Value.isTrue_sorted]) [start]

/-- What a query selects in two documents that are equal when they are sorted. -/
lemma Query.nodesFrom_reordered {root' start start' : Json} (q : Query)
    (hroot : root.sorted = root'.sorted) (hstart : start.sorted = start'.sorted) :
    List.Forall₂ Json.Reordered (q.nodesFrom r root start) (q.nodesFrom r root' start') := by
  refine Json.forall₂_reordered_of_map_eq ?_
  rw [← nodesFrom_sorted hr, ← nodesFrom_sorted hr, hroot, hstart]

end Select

/-! ### Reordered documents -/

namespace Program

/-- **The order of members does not matter.** A query compiled with the functions of the
standard, checked or not, is run without a fault. In two documents that are equal up to the
order of members the same places exist; and from two nodes at one place the query selects nodes
that are, one by one, equal up to the order of members. That names are distinct is so in every
document that is read. -/
theorem runFrom_reordered (q : Query) (p : Program) (h : Registry.standard.assemble q = .ok p)
    {root root' : Json} (hroot : root.Reordered root') (hnames : root.DistinctNames) :
    p.Completes ∧ ∀ place, Option.Rel (fun start start' => start.Reordered start' ∧
      List.Forall₂ Json.Reordered (p.runFrom root start) (p.runFrom root' start'))
      (root.at? place) (root'.at? place) := by
  refine ⟨completes_of_assemble h, fun place => ?_⟩
  obtain ⟨hsorted, -⟩ := hroot.sorted_eq hnames
  have hplace : (root.at? place).map Json.sorted = (root'.at? place).map Json.sorted := by
    rw [← Json.equivariant_sorted.at?, ← Json.equivariant_sorted.at?, hsorted]
  cases hstart : root.at? place with
  | none =>
    rw [hstart, Option.map_none, eq_comm, Option.map_eq_none_iff] at hplace
    rw [hplace]
    exact .none
  | some start =>
    rw [hstart, Option.map_some, eq_comm, Option.map_eq_some_iff] at hplace
    obtain ⟨start', hstart', hsame⟩ := hplace
    rw [hstart']
    refine .some ⟨Json.reordered_of_sorted_eq hsame.symm, ?_⟩
    rw [runFrom_of_assemble h, runFrom_of_assemble h]
    exact q.nodesFrom_reordered Registry.ignoresOrder_standard root hsorted hsame.symm

/-- Two orders of an object below an array, under a query with a filter in a filter. -/
theorem counting_runFrom_reordered :
    Registry.standard.assemble Query.counting = .ok ofCounting ∧
      Json.Reordered (.array [.object [("b", .null), ("a", .bool true)]])
        (.array [.object [("a", .bool true), ("b", .null)]]) ∧
      Json.DistinctNames (.array [.object [("b", .null), ("a", .bool true)]]) ∧
      ofCounting.Completes ∧ ∀ place, Option.Rel (fun start start' => start.Reordered start' ∧
        List.Forall₂ Json.Reordered
          (ofCounting.runFrom (.array [.object [("b", .null), ("a", .bool true)]]) start)
          (ofCounting.runFrom (.array [.object [("a", .bool true), ("b", .null)]]) start'))
        (Json.at? place (.array [.object [("b", .null), ("a", .bool true)]]))
        (Json.at? place (.array [.object [("a", .bool true), ("b", .null)]])) := by
  have hroot : Json.Reordered (.array [.object [("b", .null), ("a", .bool true)]])
      (.array [.object [("a", .bool true), ("b", .null)]]) :=
    .item [] [] (.members (.swap ..))
  have hnames : Json.DistinctNames (.array [.object [("b", .null), ("a", .bool true)]]) := by
    refine .array (List.forall_mem_singleton.2 (.object (by decide) ?_))
    exact List.forall_mem_cons.2 ⟨.null, List.forall_mem_singleton.2 (.bool true)⟩
  have hp : Registry.standard.assemble Query.counting = .ok ofCounting := rfl
  exact ⟨hp, hroot, hnames, runFrom_reordered Query.counting ofCounting hp hroot hnames⟩

end Program
end JsonQuery
