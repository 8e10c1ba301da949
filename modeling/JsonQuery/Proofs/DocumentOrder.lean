import JsonQuery.Proofs.MemberOrder
import Mathlib.Data.List.Perm.Subperm

/-!
Equality and order of documents. In documents with distinct names, objects are equal if each
name leads to equal values in both, or to none in either: names without repetitions that lie
within others, of which there are no more, are all of them. So equality is reflexive, symmetric
and transitive. The order of numbers and of strings is total, and it does not tell equal
documents apart.
-/

namespace JsonQuery.Json

/-! ### Equality, kind by kind -/

lemma equal_number_iff (m n : Number) :
    (number m).equal (number n) = true ↔ m.toDouble.signed = n.toDouble.signed := by
  rw [equal, Double.order, beq_iff_eq, Std.compare_eq_iff_eq]

lemma equal_string_iff (s t : String) : (string s).equal (string t) = true ↔ s = t := by
  rw [equal, beq_iff_eq]

lemma equal_array_iff (as bs : List Json) :
    (array as).equal (array bs) = true ↔ List.Forall₂ (fun a b => a.equal b = true) as bs := by
  rw [equal]
  induction as generalizing bs with
  | nil => cases bs <;> simp [itemsEqual]
  | cons a as ih => cases bs <;> simp [itemsEqual, ih]

/-- The definition: as many members, each with an equal one of its name on the right. -/
lemma equal_object_iff_members (as bs : List (String × Json)) :
    (object as).equal (object bs) = true ↔ as.length = bs.length ∧
      ∀ m ∈ as, ∃ b, bs.lookup m.1 = some b ∧ m.2.equal b = true := by
  rw [equal, Bool.and_eq_true, beq_iff_eq, membersEqual_eq_all, List.all_eq_true]
  exact and_congr_right fun _ => forall₂_congr fun m _ => by rw [Option.any_eq_true]

section Members

variable {as bs : List (String × Json)} (has : (as.map Prod.fst).Nodup)
  (hbs : (bs.map Prod.fst).Nodup)

include hbs in
lemma mem_names_iff {name : String} :
    name ∈ bs.map Prod.fst ↔ ∃ b, bs.lookup name = some b := by
  constructor
  · intro h
    obtain ⟨m, hm, rfl⟩ := List.mem_map.1 h
    exact ⟨m.2, (lookup_eq_some_iff_mem hbs).2 hm⟩
  · rintro ⟨b, hb⟩
    exact List.mem_map_of_mem ((lookup_eq_some_iff_mem hbs).1 hb)

include has hbs

/-- Objects are equal if each name leads to equal values in both, or to none in either. -/
lemma equal_object_iff :
    (object as).equal (object bs) = true ↔
      ∀ name, Option.Rel (fun a b => a.equal b = true) (as.lookup name) (bs.lookup name) := by
  rw [equal_object_iff_members]
  constructor
  · rintro ⟨hlength, hmembers⟩ name
    have hsubset : as.map Prod.fst ⊆ bs.map Prod.fst := by
      intro name hname
      obtain ⟨m, hm, rfl⟩ := List.mem_map.1 hname
      obtain ⟨b, hb, -⟩ := hmembers m hm
      exact (mem_names_iff hbs).2 ⟨b, hb⟩
    have hle : (bs.map Prod.fst).length ≤ (as.map Prod.fst).length := by simp [hlength]
    have hperm := (List.subperm_of_subset has hsubset).perm_of_length_le hle
    cases ha : as.lookup name with
    | some a =>
      obtain ⟨b, hb, heq⟩ := hmembers (name, a) ((lookup_eq_some_iff_mem has).1 ha)
      rw [hb]
      exact .some heq
    | none =>
      cases hb : bs.lookup name with
      | none => exact .none
      | some b =>
        obtain ⟨a, ha'⟩ := (mem_names_iff has).1 (hperm.mem_iff.2 ((mem_names_iff hbs).2 ⟨b, hb⟩))
        rw [ha] at ha'
        cases ha'
  · intro h
    have hsame : ∀ name, name ∈ as.map Prod.fst ↔ name ∈ bs.map Prod.fst := by
      intro name
      have hname := h name
      rw [mem_names_iff has, mem_names_iff hbs]
      generalize as.lookup name = a at hname
      generalize bs.lookup name = b at hname
      cases hname <;> simp
    have hperm := (List.perm_ext_iff_of_nodup has hbs).2 hsame
    refine ⟨by simpa using hperm.length_eq, fun m hm => ?_⟩
    have hname := h m.1
    rw [(lookup_eq_some_iff_mem has).2 hm] at hname
    generalize bs.lookup m.1 = b at hname
    cases hname with
    | some heq => exact ⟨_, rfl, heq⟩

end Members

/-! ### An equivalence -/

section Lists

variable {α : Type} {R : α → α → Prop} {as bs cs : List α}

lemma forall₂_symm (h : List.Forall₂ R as bs) (hsymm : ∀ a ∈ as, ∀ b ∈ bs, R a b → R b a) :
    List.Forall₂ R bs as := by
  induction h with
  | nil => exact .nil
  | @cons a b as bs hab _ ih =>
    refine .cons (hsymm a (by simp) b (by simp) hab) (ih fun a' ha' b' hb' => ?_)
    exact hsymm a' (by simp [ha']) b' (by simp [hb'])

lemma forall₂_trans (h : List.Forall₂ R as bs) (h' : List.Forall₂ R bs cs)
    (htrans : ∀ a ∈ as, ∀ b c, R a b → R b c → R a c) : List.Forall₂ R as cs := by
  induction h generalizing cs with
  | nil => exact h'
  | @cons a b as bs hab _ ih =>
    cases h' with
    | @cons _ c _ cs hbc hbs =>
      refine .cons (htrans a (by simp) b c hab hbc) (ih hbs fun a' ha' => ?_)
      exact htrans a' (by simp [ha'])

end Lists

lemma rel_symm {α : Type} {R : α → α → Prop} {a b : Option α} (h : Option.Rel R a b)
    (hsymm : ∀ x y, a = some x → b = some y → R x y → R y x) : Option.Rel R b a := by
  cases h with
  | some hxy => exact .some (hsymm _ _ rfl rfl hxy)
  | none => exact .none

lemma equal_self {a : Json} (ha : a.DistinctNames) : a.equal a = true := by
  induction ha with
  | array _ ih => exact (equal_array_iff _ _).2 (List.forall₂_same.2 ih)
  | @object members hnames _ ih =>
    refine (equal_object_iff hnames hnames).2 fun name => ?_
    cases hvalue : members.lookup name with
    | none => exact .none
    | some value => exact .some (ih _ ((lookup_eq_some_iff_mem hnames).1 hvalue))
  | number n => exact (equal_number_iff n n).2 rfl
  | _ => simp [equal]

lemma equal_symm {a b : Json} (ha : a.DistinctNames) (hb : b.DistinctNames)
    (h : a.equal b = true) : b.equal a = true := by
  induction ha generalizing b with
  | null => cases hb <;> simp_all [equal]
  | bool => cases hb <;> simp_all [equal]
  | string => cases hb <;> simp_all [equal]
  | number m =>
    cases hb with
    | number n => exact (equal_number_iff n m).2 ((equal_number_iff m n).1 h).symm
    | _ => cases h
  | array _ ih =>
    cases hb with
    | array hbs =>
      have hitems := (equal_array_iff _ _).1 h
      exact (equal_array_iff _ _).2 (forall₂_symm hitems fun a ha b hb => ih a ha (hbs b hb))
    | _ => cases h
  | @object as has _ ih =>
    cases hb with
    | @object bs hbs hvalues =>
      refine (equal_object_iff hbs has).2 fun name => ?_
      refine rel_symm ((equal_object_iff has hbs).1 h name) fun a b ha hb => ?_
      have ha' := (lookup_eq_some_iff_mem has).1 ha
      have hb' := (lookup_eq_some_iff_mem hbs).1 hb
      exact ih _ ha' (hvalues _ hb')
    | _ => cases h

lemma equal_comm {a b : Json} (ha : a.DistinctNames) (hb : b.DistinctNames) :
    b.equal a = a.equal b :=
  Bool.eq_iff_iff.2 ⟨equal_symm hb ha, equal_symm ha hb⟩

lemma equal_trans {a b c : Json} (h : a.equal b = true) (h' : b.equal c = true) :
    a.equal c = true := by
  induction a using Json.induction generalizing b c with
  | null =>
    cases b with
    | null => exact h'
    | _ => cases h
  | bool x =>
    cases b with
    | bool y =>
      obtain rfl : x = y := by simpa [equal] using h
      exact h'
    | _ => cases h
  | number l =>
    cases b with
    | number m =>
      cases c with
      | number n =>
        rw [equal_number_iff] at h h' ⊢
        exact h.trans h'
      | _ => cases h'
    | _ => cases h
  | string s =>
    cases b with
    | string t =>
      obtain rfl : s = t := (equal_string_iff s t).1 h
      exact h'
    | _ => cases h
  | array as ih =>
    cases b with
    | array bs =>
      cases c with
      | array cs =>
        rw [equal_array_iff] at h h' ⊢
        exact forall₂_trans h h' fun a ha b c => ih a ha
      | _ => cases h'
    | _ => cases h
  | object as ih =>
    cases b with
    | object bs =>
      cases c with
      | object cs =>
        rw [equal_object_iff_members] at h h' ⊢
        refine ⟨h.1.trans h'.1, fun m hm => ?_⟩
        obtain ⟨b, hb, hab⟩ := h.2 m hm
        obtain ⟨c, hc, hbc⟩ := h'.2 (m.1, b) (mem_of_lookup hb)
        exact ⟨c, hc, ih m hm hab hbc⟩
      | _ => cases h'
    | _ => cases h

/-! ### Member order -/

/-- Equality does not see the order of members. -/
lemma equal_reordered {a a' b b' : Json} (ha : a.DistinctNames) (hb : b.DistinctNames)
    (haa' : a.Reordered a') (hbb' : b.Reordered b') : a'.equal b' = a.equal b := by
  obtain ⟨hsorted, -⟩ := haa'.sorted_eq ha
  obtain ⟨hsorted', -⟩ := hbb'.sorted_eq hb
  rw [← equal_sorted, ← hsorted, ← hsorted', equal_sorted]

/-! ### A total order -/

/-- Two numbers, or two strings. -/
inductive Orderable : Json → Json → Prop
  | numbers (m n : Number) : Orderable (.number m) (.number n)
  | strings (s t : String) : Orderable (.string s) (.string t)

lemma Orderable.symm {a b : Json} (h : a.Orderable b) : b.Orderable a := by
  cases h with
  | numbers m n => exact .numbers n m
  | strings s t => exact .strings t s

lemma order?_eq_none {a b : Json} (h : ¬ a.Orderable b) : a.order? b = none := by
  cases a <;> cases b <;> first | rfl | exact absurd (by constructor) h

lemma isSome_order?_iff (a b : Json) : (a.order? b).isSome = true ↔ a.Orderable b := by
  constructor
  · intro h
    by_contra hnot
    rw [order?_eq_none hnot] at h
    cases h
  · rintro (_ | _) <;> rfl

lemma order?_swap (a b : Json) : b.order? a = (a.order? b).map Ordering.swap := by
  by_cases h : a.Orderable b
  · cases h with
    | numbers m n => exact congrArg some Std.OrientedOrd.eq_swap
    | strings s t => exact congrArg some Std.OrientedOrd.eq_swap
  · rw [order?_eq_none h, order?_eq_none (mt Orderable.symm h)]
    rfl

lemma compare_trans {α : Type} [Ord α] [Std.TransOrd α] {x y z : α} {o : Ordering}
    (h : compare x y = o) (h' : compare y z = o) : compare x z = o := by
  cases o with
  | lt => exact Std.TransCmp.lt_trans h h'
  | eq => exact Std.TransCmp.eq_trans h h'
  | gt => exact Std.TransCmp.gt_trans h h'

lemma order?_trans {a b c : Json} {o : Ordering} (h : a.order? b = some o)
    (h' : b.order? c = some o) : a.order? c = some o := by
  have hab := (isSome_order?_iff a b).1 (Option.isSome_of_eq_some h)
  have hbc := (isSome_order?_iff b c).1 (Option.isSome_of_eq_some h')
  cases hab with
  | numbers l m =>
    cases hbc with
    | numbers _ n => exact congrArg some (compare_trans (Option.some.inj h) (Option.some.inj h'))
  | strings s t =>
    cases hbc with
    | strings _ u => exact congrArg some (compare_trans (Option.some.inj h) (Option.some.inj h'))

/-- In the order, those are equal that are ordered and equal. -/
lemma order?_eq_some_eq_iff (a b : Json) :
    a.order? b = some .eq ↔ a.Orderable b ∧ a.equal b = true := by
  by_cases h : a.Orderable b
  · rw [and_iff_right h]
    cases h with
    | numbers m n =>
      rw [order?, Option.some.injEq, equal_number_iff, Double.order, Std.compare_eq_iff_eq]
    | strings s t => rw [order?, Option.some.injEq, equal_string_iff, Std.compare_eq_iff_eq]
  · simp [order?_eq_none h, h]

/-- The order does not tell equal documents apart. -/
lemma order?_congr_left {a a' : Json} (h : a.equal a' = true) (b : Json) :
    a'.order? b = a.order? b := by
  cases a with
  | number m =>
    cases a' with
    | number n =>
      have heq := (equal_number_iff m n).1 h
      cases b with
      | number k => simp only [order?, Double.order, heq]
      | _ => rfl
    | _ => cases h
  | string s =>
    cases a' with
    | string t =>
      obtain rfl : s = t := (equal_string_iff s t).1 h
      rfl
    | _ => cases h
  | _ =>
    cases a' with
    | number n => cases h
    | string t => cases h
    | _ => rfl

lemma order?_congr_right {b b' : Json} (h : b.equal b' = true) (a : Json) :
    a.order? b' = a.order? b := by
  rw [order?_swap b' a, order?_congr_left h, ← order?_swap b a]

/-- The laws of equality and order. -/
structure Laws (a b c : Json) : Prop where
  refl : a.equal a = true
  symm : b.equal a = a.equal b
  trans : a.equal b = true → b.equal c = true → a.equal c = true
  /-- Equality does not see the order of members. -/
  reordered : ∀ a' b', a.Reordered a' → b.Reordered b' → a'.equal b' = a.equal b
  /-- Two numbers are ordered, and so are two strings; nothing else is. -/
  order_isSome : (a.order? b).isSome = true ↔ a.Orderable b
  order_swap : b.order? a = (a.order? b).map Ordering.swap
  order_trans : ∀ o, a.order? b = some o → b.order? c = some o → a.order? c = some o
  /-- In the order, those are equal that are ordered and equal. -/
  order_eq : a.order? b = some .eq ↔ a.Orderable b ∧ a.equal b = true
  /-- The order does not tell equal documents apart, on either side. -/
  order_congr : a.equal c = true → c.order? b = a.order? b ∧ b.order? c = b.order? a

/-- **Equality is an equivalence, and the order a total one that agrees with it**, of documents
in which names are distinct. -/
theorem equality_and_order_lawful {a b : Json} (ha : a.DistinctNames) (hb : b.DistinctNames)
    (c : Json) : Laws a b c where
  refl := equal_self ha
  symm := equal_comm ha hb
  trans := equal_trans
  reordered _ _ := equal_reordered ha hb
  order_isSome := isSome_order?_iff a b
  order_swap := order?_swap a b
  order_trans _ := order?_trans
  order_eq := order?_eq_some_eq_iff a b
  order_congr h := ⟨order?_congr_left h b, order?_congr_right h b⟩

/-- An object with an integer and the same members in another order, with a double. -/
theorem mixed_equality_and_order_lawful :
    DistinctNames (.object [("a", .number (.int 1)), ("b", .array [.null])]) ∧
      DistinctNames (.object [("b", .array [.null]), ("a", .number (.real (.ofInt 1)))]) ∧
      Laws (.object [("a", .number (.int 1)), ("b", .array [.null])])
        (.object [("b", .array [.null]), ("a", .number (.real (.ofInt 1)))])
        (.number (.int 1)) := by
  have hitems : DistinctNames (.array [.null]) := .array (List.forall_mem_singleton.2 .null)
  have ha : DistinctNames (.object [("a", .number (.int 1)), ("b", .array [.null])]) :=
    .object (by decide) (List.forall_mem_cons.2 ⟨.number _, List.forall_mem_singleton.2 hitems⟩)
  have hb : DistinctNames (.object [("b", .array [.null]), ("a", .number (.real (.ofInt 1)))]) :=
    .object (by decide) (List.forall_mem_cons.2 ⟨hitems, List.forall_mem_singleton.2 (.number _)⟩)
  exact ⟨ha, hb, equality_and_order_lawful ha hb _⟩

end JsonQuery.Json
