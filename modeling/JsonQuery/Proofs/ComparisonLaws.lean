import JsonQuery.Proofs.DocumentOrder
import JsonQuery.Proofs.Operands

/-!
Laws of the comparison operators. Each operator has a mirror image, which holds with the sides
exchanged; this rests on the symmetry of equality, and so on names being distinct. The operators
with equality in them hold where the strict one or equality does. Of two single values, `<`,
`==` and `>` exclude each other, and one of them holds if the values are ordered.
-/

namespace JsonQuery

/-- Names are distinct in the scalar of a value, or in its nodes. -/
def Value.DistinctNames (v : Value) : Prop := ∀ j, some j ∈ v.parts → j.DistinctNames

namespace Operator

/-! ### Pairs of parts -/

/-- The operator that says the same from the other side. -/
def mirror : Operator → Operator
  | .less => .greater
  | .greater => .less
  | .lessEqual => .greaterEqual
  | .greaterEqual => .lessEqual
  | op => op

section Parts

variable {a b : Option Json}

lemma partsEqual_comm (ha : ∀ j ∈ a, j.DistinctNames) (hb : ∀ j ∈ b, j.DistinctNames) :
    partsEqual b a = partsEqual a b := by
  cases a with
  | none => cases b <;> rfl
  | some i =>
    cases b with
    | none => rfl
    | some j => exact Json.equal_comm (ha i rfl) (hb j rfl)

lemma partsOrder?_swap (a b : Option Json) :
    partsOrder? b a = (partsOrder? a b).map Ordering.swap := by
  cases a with
  | none => cases b <;> rfl
  | some i =>
    cases b with
    | none => rfl
    | some j => exact Json.order?_swap i j

lemma swap_beq_lt (o : Option Ordering) : (o.map Ordering.swap == some .lt) = (o == some .gt) := by
  rcases o with _ | _ | _ | _ <;> rfl

lemma swap_beq_gt (o : Option Ordering) : (o.map Ordering.swap == some .gt) = (o == some .lt) := by
  rcases o with _ | _ | _ | _ <;> rfl

lemma holds_mirror (ha : ∀ j ∈ a, j.DistinctNames) (hb : ∀ j ∈ b, j.DistinctNames)
    (op : Operator) : op.mirror.holds b a = op.holds a b := by
  have hequal := partsEqual_comm ha hb
  have horder := partsOrder?_swap a b
  cases op <;> simp only [mirror, holds, hequal, horder, swap_beq_lt, swap_beq_gt]

/-- Of parts that are ordered, each of `<`, `==` and `>` holds if it is their order. -/
lemma holds_of_order {i j : Json} {o : Ordering} (h : i.order? j = some o) :
    Operator.less.holds (some i) (some j) = (o == .lt) ∧
      Operator.equal.holds (some i) (some j) = (o == .eq) ∧
      Operator.greater.holds (some i) (some j) = (o == .gt) := by
  have horderable : i.Orderable j :=
    (Json.isSome_order?_iff i j).1 (Option.isSome_of_eq_some h)
  have hequal : i.equal j = true ↔ o = .eq := by
    have hiff := Json.order?_eq_some_eq_iff i j
    rw [h, Option.some.injEq, and_iff_right horderable] at hiff
    exact hiff.symm
  refine ⟨?_, Bool.eq_iff_iff.2 ?_, ?_⟩
  · simp [holds, partsOrder?, h]
  · simpa [holds, partsEqual] using hequal
  · simp [holds, partsOrder?, h]

/-- Of parts that are ordered, one of `<`, `==` and `>` holds. -/
lemma countP_holds_of_order {i j : Json} {o : Ordering} (h : i.order? j = some o) :
    [Operator.less, .equal, .greater].countP (·.holds (some i) (some j)) = 1 := by
  obtain ⟨hless, hequal, hgreater⟩ := holds_of_order h
  simp only [List.countP_cons, List.countP_nil, hless, hequal, hgreater]
  cases o <;> rfl

lemma exists_of_partsOrder? {o : Ordering} (h : partsOrder? a b = some o) :
    ∃ i j, a = some i ∧ b = some j ∧ i.order? j = some o := by
  obtain ⟨i, rfl, h⟩ := Option.bind_eq_some_iff.1 h
  obtain ⟨j, rfl, h⟩ := Option.bind_eq_some_iff.1 h
  exact ⟨i, j, rfl, rfl, h⟩

lemma countP_holds_le_one (a b : Option Json) :
    [Operator.less, .equal, .greater].countP (·.holds a b) ≤ 1 := by
  cases h : partsOrder? a b with
  | none =>
    -- Only equality is left.
    have hless : Operator.less.holds a b = false := by simp [holds, h]
    have hgreater : Operator.greater.holds a b = false := by simp [holds, h]
    simp only [List.countP_cons, List.countP_nil, hless, hgreater]
    cases Operator.equal.holds a b <;> decide
  | some o =>
    obtain ⟨i, j, rfl, rfl, hij⟩ := exists_of_partsOrder? h
    exact (countP_holds_of_order hij).le

end Parts

/-! ### Values -/

section Values

variable {l r : Value}

lemma parts_eq_nil_iff (v : Value) : v.parts = [] ↔ v = .nodes [] := by
  cases v <;> simp [Value.parts]

lemma size_eq_zero_iff (v : Value) : v.size = 0 ↔ v = .nodes [] := by
  rw [← Value.length_parts, List.length_eq_zero_iff, parts_eq_nil_iff]

lemma compare_of_empty (h : l = .nodes [] ∨ r = .nodes []) (op : Operator) :
    op.compare l r = match op with
      | .equal => l.isAbsent && r.isAbsent
      | .notEqual => !(l.isAbsent && r.isAbsent)
      | _ => false := by
  rw [← size_eq_zero_iff, ← size_eq_zero_iff] at h
  cases op <;> exact if_pos h

/-- With nodes or a scalar on both sides, an operator holds if it holds of some pair of parts. -/
lemma compare_iff (h : ¬ (l = .nodes [] ∨ r = .nodes [])) (op : Operator) :
    op.compare l r = true ↔ ∃ a ∈ l.parts, ∃ b ∈ r.parts, op.holds a b = true := by
  rw [← size_eq_zero_iff, ← size_eq_zero_iff] at h
  unfold compare
  rw [if_neg h]
  simp only [List.any_eq_true]

/-- An operator holds exactly if its mirror image holds from the other side. -/
lemma compare_mirror (hl : l.DistinctNames) (hr : r.DistinctNames) (op : Operator) :
    op.mirror.compare r l = op.compare l r := by
  by_cases h : l = .nodes [] ∨ r = .nodes []
  · rw [compare_of_empty h, compare_of_empty h.symm]
    cases op <;> simp [mirror, Bool.and_comm]
  · have hpairs : ∀ a ∈ l.parts, ∀ b ∈ r.parts, op.mirror.holds b a = op.holds a b := by
      refine fun a ha b hb => holds_mirror ?_ ?_ op
      · rintro j rfl
        exact hl j ha
      · rintro j rfl
        exact hr j hb
    rw [Bool.eq_iff_iff, compare_iff h, compare_iff (mt Or.symm h)]
    constructor
    · rintro ⟨b, hb, a, ha, hab⟩
      exact ⟨a, ha, b, hb, hpairs a ha b hb ▸ hab⟩
    · rintro ⟨a, ha, b, hb, hab⟩
      exact ⟨b, hb, a, ha, (hpairs a ha b hb).symm ▸ hab⟩

/-- What holds of pairs where one of two operators does holds of values where one of them does. -/
lemma compare_or {op strict : Operator} (h : ¬ (l = .nodes [] ∨ r = .nodes []))
    (hop : ∀ a b, op.holds a b = (equal.holds a b || strict.holds a b)) :
    op.compare l r = (strict.compare l r || equal.compare l r) := by
  rw [Bool.eq_iff_iff, Bool.or_eq_true, compare_iff h, compare_iff h, compare_iff h]
  constructor
  · rintro ⟨a, ha, b, hb, hab⟩
    rw [hop, Bool.or_eq_true] at hab
    exact hab.symm.imp (fun hab => ⟨a, ha, b, hb, hab⟩) fun hab => ⟨a, ha, b, hb, hab⟩
  · rintro (⟨a, ha, b, hb, hab⟩ | ⟨a, ha, b, hb, hab⟩)
    · exact ⟨a, ha, b, hb, by rw [hop, hab, Bool.or_true]⟩
    · exact ⟨a, ha, b, hb, by rw [hop, hab, Bool.true_or]⟩

lemma compare_of_single {a b : Option Json} (ha : l.parts = [a]) (hb : r.parts = [b])
    (op : Operator) : op.compare l r = op.holds a b := by
  have h : ¬ (l = .nodes [] ∨ r = .nodes []) := by
    rw [← parts_eq_nil_iff, ← parts_eq_nil_iff, ha, hb]
    simp
  rw [Bool.eq_iff_iff, compare_iff h, ha, hb]
  simp

lemma countP_compare_le_one (hl : l.IsSingle) (hr : r.IsSingle) :
    [less, equal, greater].countP (·.compare l r) ≤ 1 := by
  by_cases h : l = .nodes [] ∨ r = .nodes []
  · simp only [List.countP_cons, List.countP_nil, compare_of_empty h]
    cases l.isAbsent && r.isAbsent <;> decide
  · rw [← size_eq_zero_iff, ← size_eq_zero_iff] at h
    obtain ⟨hl', hr'⟩ := not_or.1 h
    obtain ⟨a, ha⟩ := Value.exists_parts_eq hl hl'
    obtain ⟨b, hb⟩ := Value.exists_parts_eq hr hr'
    simp only [compare_of_single ha hb]
    exact countP_holds_le_one a b

lemma countP_compare_of_orderable {i j : Json} (hl : l.parts = [some i]) (hr : r.parts = [some j])
    (h : i.Orderable j) : [less, equal, greater].countP (·.compare l r) = 1 := by
  obtain ⟨o, ho⟩ := Option.isSome_iff_exists.1 ((Json.isSome_order?_iff i j).2 h)
  simp only [compare_of_single hl hr]
  exact countP_holds_of_order ho

end Values

/-- The laws of the comparison operators. -/
structure Laws (l r : Value) : Prop where
  equal_symm : equal.compare r l = equal.compare l r
  notEqual_symm : notEqual.compare r l = notEqual.compare l r
  less_iff_greater : greater.compare r l = less.compare l r
  lessEqual_iff_greaterEqual : greaterEqual.compare r l = lessEqual.compare l r
  /-- With a scalar, a node or nothing on either side, `<=` is `<` or `==`, and `>=` is `>` or
  `==`. -/
  orEqual : l.parts ≠ [] → r.parts ≠ [] →
    lessEqual.compare l r = (less.compare l r || equal.compare l r) ∧
      greaterEqual.compare l r = (greater.compare l r || equal.compare l r)
  /-- An empty list is not ordered with anything, not even with itself. -/
  empty : l = .nodes [] ∨ r = .nodes [] →
    ∀ op ∈ [less, lessEqual, greater, greaterEqual], op.compare l r = false
  notEqual_of_single : l.IsSingle → r.IsSingle →
    notEqual.compare l r = !equal.compare l r
  /-- Of `<`, `==` and `>` at most one holds of single values, -/
  exclusive : l.IsSingle → r.IsSingle → [less, equal, greater].countP (·.compare l r) ≤ 1
  /-- and one of them if these are two numbers or two strings. -/
  decided : ∀ i j, l.parts = [some i] → r.parts = [some j] → i.Orderable j →
    [less, equal, greater].countP (·.compare l r) = 1

/-- **The comparison operators obey their laws**, whatever is compared. -/
theorem comparison_lawful {l r : Value} (hl : l.DistinctNames) (hr : r.DistinctNames) :
    Laws l r where
  equal_symm := compare_mirror hl hr equal
  notEqual_symm := compare_mirror hl hr notEqual
  less_iff_greater := compare_mirror hl hr less
  lessEqual_iff_greaterEqual := compare_mirror hl hr lessEqual
  orEqual hl' hr' := by
    have h : ¬ (l = .nodes [] ∨ r = .nodes []) := by
      rw [← parts_eq_nil_iff, ← parts_eq_nil_iff]
      exact not_or.2 ⟨hl', hr'⟩
    exact ⟨compare_or h fun _ _ => rfl, compare_or h fun _ _ => rfl⟩
  empty h op hop := by
    simp only [List.mem_cons, List.not_mem_nil, or_false] at hop
    obtain rfl | rfl | rfl | rfl := hop <;> exact compare_of_empty h _
  notEqual_of_single := compare_notEqual
  exclusive := countP_compare_le_one
  decided _ _ := countP_compare_of_orderable

/-- A list of two nodes, and a double that the first of them is equal to. -/
theorem mixed_comparison_lawful :
    (Value.nodes [.number (.int 1), .object [("a", .null)]]).DistinctNames ∧
      (Value.scalar (.number (.real (.ofInt 1)))).DistinctNames ∧
      Laws (.nodes [.number (.int 1), .object [("a", .null)]])
        (.scalar (.number (.real (.ofInt 1)))) := by
  have hl : (Value.nodes [.number (.int 1), .object [("a", .null)]]).DistinctNames := by
    intro j hj
    simp only [Value.parts, List.map_cons, List.map_nil, List.mem_cons, Option.some.injEq,
      List.not_mem_nil, or_false] at hj
    rcases hj with rfl | rfl
    · exact .number _
    · exact .object (by decide) (List.forall_mem_singleton.2 .null)
  have hr : (Value.scalar (.number (.real (.ofInt 1)))).DistinctNames := by
    intro j hj
    obtain rfl := Option.some.inj (List.mem_singleton.1 hj)
    exact .number _
  exact ⟨hl, hr, comparison_lawful hl hr⟩

end Operator
end JsonQuery
