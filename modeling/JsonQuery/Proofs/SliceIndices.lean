import JsonQuery.Machine.Selection
import JsonQuery.Semantics.Slice
import Mathlib.Data.List.Basic
import Mathlib.Tactic.Lemma
import Mathlib.Tactic.SplitIfs

/-!
The indices that a slice opcode takes are the positions that the slice means. A step of the
right sign ends the loop, and both bounds are placed within the array, so no index leaves it.
-/

namespace JsonQuery

open Slice (progression)

lemma progression_zero (i step : Int) : progression i step 0 = [] := rfl

lemma progression_succ (i step : Int) (n : Nat) :
    progression i step (n + 1) = i :: progression (i + step) step n := by
  simp only [progression, List.range_succ_eq_map, List.map_cons, List.map_map]
  congr 1
  · simp
  · refine List.map_congr_left fun k _ => ?_
    simp only [Function.comp_apply, Int.natCast_succ]
    grind

lemma mem_progression {i step j : Int} {n : Nat} (h : j ∈ progression i step n) :
    ∃ k : Nat, j = i + k * step := by
  simp only [progression, List.mem_map] at h
  obtain ⟨k, -, rfl⟩ := h
  exact ⟨k, rfl⟩

lemma between_of_mem_up {i limit step j : Int} {n : Nat} (hstep : 0 < step)
    (h : j ∈ (progression i step n).filter (· < limit)) : i ≤ j ∧ j < limit := by
  obtain ⟨hj, hlt⟩ := List.mem_filter.1 h
  obtain ⟨k, rfl⟩ := mem_progression hj
  have : 0 ≤ (k : Int) * step := Int.mul_nonneg (by omega) (by omega)
  simp only [decide_eq_true_eq] at hlt
  omega

lemma between_of_mem_down {i limit step j : Int} {n : Nat} (hstep : step < 0)
    (h : j ∈ (progression i step n).filter (limit < ·)) : limit < j ∧ j ≤ i := by
  obtain ⟨hj, hlt⟩ := List.mem_filter.1 h
  obtain ⟨k, rfl⟩ := mem_progression hj
  have : (k : Int) * step ≤ 0 := Int.mul_nonpos_of_nonneg_of_nonpos (by omega) (by omega)
  simp only [decide_eq_true_eq] at hlt
  omega

/-- From a limit on, nothing is below it. -/
lemma filter_up_eq_nil {i limit step : Int} (hstep : 0 < step) (hi : limit ≤ i) (n : Nat) :
    (progression i step n).filter (· < limit) = [] := by
  refine List.eq_nil_iff_forall_not_mem.2 fun j hj => ?_
  have := between_of_mem_up hstep hj
  omega

lemma filter_down_eq_nil {i limit step : Int} (hstep : step < 0) (hi : i ≤ limit) (n : Nat) :
    (progression i step n).filter (limit < ·) = [] := by
  refine List.eq_nil_iff_forall_not_mem.2 fun j hj => ?_
  have := between_of_mem_down hstep hj
  omega

namespace SliceOpcode

/-- The step of a slice leads the way that its opcode goes. -/
def Agrees (o : SliceOpcode) (numbers : SliceNumbers) : Prop :=
  match o.direction with
  | .forward => 0 < numbers.step
  | .backward => numbers.step < 0

/-! ### The loops -/

/-- The upward loop gives the steps below the limit, of which there are at most as many as
numbers between the two. -/
lemma upward?_eq {i limit step : Int} (hstep : 0 < step) {n : Nat} (hn : limit - i ≤ n) :
    upward? i limit step = some ((progression i step n).filter (· < limit)) := by
  induction n generalizing i with
  | zero =>
    rw [upward?, if_neg (by omega), progression_zero, List.filter_nil]
  | succ n ih =>
    rw [upward?]
    by_cases hi : i < limit
    · rw [if_pos hi, if_pos hstep, ih (by omega), progression_succ, Option.map_some,
        List.filter_cons_of_pos (by simpa using hi)]
    · rw [if_neg hi, filter_up_eq_nil hstep (by omega)]

lemma downward?_eq {i limit step : Int} (hstep : step < 0) {n : Nat} (hn : i - limit ≤ n) :
    downward? i limit step = some ((progression i step n).filter (limit < ·)) := by
  induction n generalizing i with
  | zero =>
    rw [downward?, if_neg (by omega), progression_zero, List.filter_nil]
  | succ n ih =>
    rw [downward?]
    by_cases hi : limit < i
    · rw [if_pos hi, if_pos hstep, ih (by omega), progression_succ, Option.map_some,
        List.filter_cons_of_pos (by simpa using hi)]
    · rw [if_neg hi, filter_down_eq_nil hstep (by omega)]

/-! ### The bounds -/

section
variable (bound : Bound) (n : Int) {size : Int} (hsize : 0 ≤ size)
include hsize

lemma first_forward_mem : 0 ≤ Direction.forward.first bound n size ∧
    Direction.forward.first bound n size ≤ size := by
  cases bound <;> simp only [Direction.first, clamp] <;> omega

lemma limit_forward_mem : 0 ≤ Direction.forward.limit bound n size ∧
    Direction.forward.limit bound n size ≤ size := by
  cases bound <;> simp only [Direction.limit, clamp] <;> omega

lemma first_backward_lt : Direction.backward.first bound n size < size := by
  cases bound <;> simp only [Direction.first, clamp] <;> omega

lemma limit_backward_mem : -1 ≤ Direction.backward.limit bound n size ∧
    Direction.backward.limit bound n size < size := by
  cases bound <;> simp only [Direction.limit, clamp] <;> omega

end

variable {numbers : SliceNumbers}

lemma indices?_forward (start stop : Bound) (h : 0 < numbers.step) (size : Nat) :
    indices? ⟨.forward, start, stop⟩ numbers size =
      some ((progression (Direction.forward.first start numbers.start size)
        numbers.step size).filter (· < Direction.forward.limit stop numbers.stop size)) := by
  have hf := first_forward_mem start numbers.start (Int.natCast_nonneg size)
  have hl := limit_forward_mem stop numbers.stop (Int.natCast_nonneg size)
  have hn : Direction.forward.limit stop numbers.stop size -
      Direction.forward.first start numbers.start size ≤ size := by omega
  exact upward?_eq h hn

lemma indices?_backward (start stop : Bound) (h : numbers.step < 0) (size : Nat) :
    indices? ⟨.backward, start, stop⟩ numbers size =
      some ((progression (Direction.backward.first start numbers.start size)
        numbers.step size).filter (Direction.backward.limit stop numbers.stop size < ·)) := by
  have hf := first_backward_lt start numbers.start (Int.natCast_nonneg size)
  have hl := limit_backward_mem stop numbers.stop (Int.natCast_nonneg size)
  have hn : Direction.backward.first start numbers.start size -
      Direction.backward.limit stop numbers.stop size ≤ size := by omega
  exact downward?_eq h hn

/-- The loop of a slice ends, and what it goes through are indices of the array. -/
theorem indices?_mem {o : SliceOpcode} (h : o.Agrees numbers) (size : Nat) :
    ∃ is, o.indices? numbers size = some is ∧ ∀ i ∈ is, 0 ≤ i ∧ i < size := by
  obtain ⟨direction, start, stop⟩ := o
  have hsize := Int.natCast_nonneg size
  cases direction with
  | forward =>
    refine ⟨_, indices?_forward start stop h size, fun i hi => ?_⟩
    have hf := first_forward_mem start numbers.start hsize
    have hl := limit_forward_mem stop numbers.stop hsize
    have := between_of_mem_up h hi
    omega
  | backward =>
    refine ⟨_, indices?_backward start stop h size, fun i hi => ?_⟩
    have hf := first_backward_lt start numbers.start hsize
    have hl := limit_backward_mem stop numbers.stop hsize
    have := between_of_mem_down h hi
    omega

lemma mapM_item? {items : Array Json} {is : List Int} (h : ∀ i ∈ is, 0 ≤ i ∧ i < items.size) :
    is.mapM (Json.item? items) = some (is.filterMap fun i => items[i.toNat]?) := by
  induction is with
  | nil => rfl
  | cons i is ih =>
    obtain ⟨hi, his⟩ := List.forall_mem_cons.1 h
    have hget : items[i.toNat]? = some items[i.toNat] := Array.getElem?_eq_getElem (by omega)
    rw [List.mapM_cons, ih his, Json.item?, if_pos hi.1, hget]
    simp [hget]

/-- A slice whose step leads the way of its opcode takes something from every node. -/
theorem slice?_isSome {o : SliceOpcode} (h : o.Agrees numbers) (node : Json) :
    ∃ taken, node.slice? o numbers = some taken := by
  obtain ⟨is, his, hmem⟩ := indices?_mem h node.elements.toArray.size
  exact ⟨_, by rw [Json.slice?, his, Option.bind_some, mapM_item? hmem]⟩

end SliceOpcode

/-! ### Opcodes and what slices mean -/

namespace Slice

variable {s : Slice}

lemma elements_eq (s : Slice) (node : Json) :
    s.elements node =
      (s.positions node.elements.length).filterMap fun i => node.elements[i.toNat]? := by
  cases node <;> simp [elements, Json.elements]

/-! ### Positions -/

lemma upwardBounds_mem (s : Slice) (size : Nat) :
    0 ≤ (s.upwardBounds size).1 ∧ (s.upwardBounds size).2 ≤ size := by
  simp only [upwardBounds]
  omega

lemma downwardBounds_mem (s : Slice) (size : Nat) :
    (s.downwardBounds size).1 < size ∧ -1 ≤ (s.downwardBounds size).2 := by
  simp only [downwardBounds]
  omega

lemma positions_up (hs : 0 < s.step) (size : Nat) :
    s.positions size =
      (progression (s.upwardBounds size).1 s.step size).filter (· < (s.upwardBounds size).2) := by
  rw [positions, if_pos hs]

lemma positions_down (hs : s.step < 0) (size : Nat) :
    s.positions size = (progression (s.downwardBounds size).1 s.step size).filter
      ((s.downwardBounds size).2 < ·) := by
  rw [positions, if_neg (by omega), if_pos hs]

lemma positions_eq_nil (hs : s.step = 0) (size : Nat) : s.positions size = [] := by
  simp [positions, hs]

/-- A position is an index of the array. -/
lemma mem_positions {size : Nat} {i : Int} (h : i ∈ s.positions size) : 0 ≤ i ∧ i < size := by
  rcases Int.lt_trichotomy s.step 0 with hs | hs | hs
  · have hbounds := s.downwardBounds_mem size
    rw [positions_down hs] at h
    have hi := between_of_mem_down hs h
    omega
  · rw [positions_eq_nil hs] at h
    cases h
  · have hbounds := s.upwardBounds_mem size
    rw [positions_up hs] at h
    have hi := between_of_mem_up hs h
    omega

/-! ### Loops and positions -/

lemma opcode_of_form {o : SliceOpcode} (h : s.form = .opcode o) :
    (0 < s.step ∧ o = ⟨.forward, .of s.start, .of s.stop⟩) ∨
      (s.step < 0 ∧ o = ⟨.backward, .of s.start, .of s.stop⟩) := by
  unfold form at h
  split_ifs at h with h0 h1 hs <;> obtain rfl := SliceForm.opcode.inj h
  · exact .inl ⟨hs, rfl⟩
  · exact .inr ⟨by omega, rfl⟩

lemma agrees_of_form {o : SliceOpcode} (h : s.form = .opcode o) : o.Agrees s.numbers := by
  rcases opcode_of_form h with ⟨hs, rfl⟩ | ⟨hs, rfl⟩ <;> exact hs

lemma first_forward (s : Slice) (size : Nat) :
    Direction.forward.first (.of s.start) s.numbers.start size = (s.upwardBounds size).1 := by
  rcases hs : s.start with _ | n
  · simp only [Direction.first, Bound.of, upwardBounds, hs, place, Option.getD_none]
    omega
  · by_cases hn : 0 ≤ n <;>
      simp [Direction.first, Bound.of, upwardBounds, numbers, hs, hn, place, clamp]

lemma limit_forward (s : Slice) (size : Nat) :
    Direction.forward.limit (.of s.stop) s.numbers.stop size = (s.upwardBounds size).2 := by
  rcases hs : s.stop with _ | n
  · simp [Direction.limit, Bound.of, upwardBounds, hs, place]
  · by_cases hn : 0 ≤ n <;>
      simp [Direction.limit, Bound.of, upwardBounds, numbers, hs, hn, place, clamp]

/-- A downward slice that begins below the array takes as little as one that begins just
before it. -/
lemma first_backward (s : Slice) (size : Nat) :
    (s.downwardBounds size).1 =
      max (-1) (Direction.backward.first (.of s.start) s.numbers.start size) := by
  rcases hs : s.start with _ | n
  · simp only [Direction.first, Bound.of, downwardBounds, hs, place, Option.getD_none]
    split_ifs <;> omega
  · by_cases hn : 0 ≤ n <;>
      simp [Direction.first, Bound.of, downwardBounds, numbers, hs, hn, place, clamp]

lemma limit_backward (s : Slice) (size : Nat) :
    Direction.backward.limit (.of s.stop) s.numbers.stop size = (s.downwardBounds size).2 := by
  rcases hs : s.stop with _ | n
  · simp only [Direction.limit, Bound.of, downwardBounds, hs, place, Option.getD_none]
    split_ifs <;> omega
  · by_cases hn : 0 ≤ n <;>
      simp [Direction.limit, Bound.of, downwardBounds, numbers, hs, hn, place, clamp]

/-- The loop of an upward slice, whatever its form. -/
lemma indices?_of_step_pos (hs : 0 < s.step) (size : Nat) :
    SliceOpcode.indices? ⟨.forward, .of s.start, .of s.stop⟩ s.numbers size =
      some (s.positions size) := by
  rw [SliceOpcode.indices?_forward _ _ hs, first_forward, limit_forward, positions_up hs]
  rfl

/-- The indices that the opcode of a slice goes through are the positions of the slice. -/
theorem indices?_of_form {o : SliceOpcode} (h : s.form = .opcode o) (size : Nat) :
    o.indices? s.numbers size = some (s.positions size) := by
  rcases opcode_of_form h with ⟨hs, rfl⟩ | ⟨hs, rfl⟩
  · exact indices?_of_step_pos hs size
  · rw [SliceOpcode.indices?_backward _ _ hs, limit_backward, positions_down hs]
    have hl := SliceOpcode.limit_backward_mem (.of s.stop) s.numbers.stop (Int.natCast_nonneg size)
    rw [limit_backward] at hl
    by_cases hf : -1 ≤ Direction.backward.first (.of s.start) s.numbers.start size
    · rw [← Int.max_eq_right hf, ← first_backward]
      rfl
    · -- the slice begins below the array and stays there
      have hf' : (s.downwardBounds size).1 = -1 := by rw [first_backward]; omega
      have hnil : (progression (-1) s.step size).filter ((s.downwardBounds size).2 < ·) = [] :=
        filter_down_eq_nil hs hl.1 size
      have hfirst : (progression (Direction.backward.first (.of s.start) s.numbers.start size)
          s.step size).filter ((s.downwardBounds size).2 < ·) = [] :=
        filter_down_eq_nil hs (by omega) size
      exact congrArg some (hfirst.trans (by simp only [hf', hnil]))

/-- An opcode that goes through the positions takes the elements. -/
lemma slice?_of_indices? {o : SliceOpcode} {numbers : SliceNumbers}
    (h : ∀ size : Nat, o.indices? numbers size = some (s.positions size)) (node : Json) :
    node.slice? o numbers = some (s.elements node) := by
  have hmem : ∀ i ∈ s.positions node.elements.length,
      0 ≤ i ∧ i < node.elements.toArray.size := fun i hi => mem_positions hi
  rw [Json.slice?, List.size_toArray, h, Option.bind_some, SliceOpcode.mapM_item? hmem,
    elements_eq]
  simp

theorem slice?_of_form {o : SliceOpcode} (h : s.form = .opcode o) (node : Json) :
    node.slice? o s.numbers = some (s.elements node) :=
  slice?_of_indices? (indices?_of_form h) node

theorem elements_of_form_nothing (h : s.form = .nothing) (node : Json) : s.elements node = [] := by
  have hs : s.step = 0 := by
    unfold form at h
    split_ifs at h with h0
    exact h0
  rw [elements_eq, positions_eq_nil hs, List.filterMap_nil]

/-- All positions of an array, one after the other. -/
lemma filterMap_progression (items : List Json) :
    (progression 0 1 items.length).filterMap (fun i => items[i.toNat]?) = items := by
  induction items with
  | nil => rfl
  | cons item items ih =>
    have hshift : progression (0 + 1) 1 items.length =
        (progression 0 1 items.length).map (· + 1) := by
      simp [progression, Int.add_comm]
    have hnext : ∀ i ∈ progression 0 1 items.length,
        (item :: items)[(i + 1).toNat]? = items[i.toNat]? := by
      intro i hi
      obtain ⟨k, rfl⟩ := mem_progression hi
      simp
    rw [List.length_cons, progression_succ, hshift, List.filterMap_cons, List.filterMap_map]
    simp only [Function.comp_def]
    rw [List.filterMap_congr hnext, ih]
    rfl

theorem elements_of_form_everything (h : s.form = .everything) (node : Json) :
    s.elements node = node.elements := by
  have hs : s.step = 1 ∧ s.start = none ∧ s.stop = none := by
    unfold form at h
    split_ifs at h with h0 h1
    exact h1
  have hb : s.upwardBounds node.elements.length = (0, (node.elements.length : Int)) := by
    simp only [upwardBounds, hs, place, Option.getD_none, Prod.mk.injEq]
    omega
  have hall : (progression 0 1 node.elements.length).filter (· < (node.elements.length : Int)) =
      progression 0 1 node.elements.length := by
    refine List.filter_eq_self.2 fun i hi => ?_
    simp only [progression, List.mem_map, List.mem_range] at hi
    obtain ⟨k, hk, rfl⟩ := hi
    simp; omega
  rw [elements_eq, positions_up (by omega), hs.1, hb, hall]
  exact filterMap_progression node.elements

end Slice
end JsonQuery
