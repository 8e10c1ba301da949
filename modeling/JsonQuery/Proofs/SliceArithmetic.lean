import JsonQuery.Proofs.SliceIndices
import JsonQuery.Proofs.Words

/-!
Slices and indices with words for integers. A bound, an index or a step that a query can write is
below 2⁵³ in magnitude; with an array of less than 2⁵⁸ elements, no sum of such words leaves the
64 bits, not even the one with which a loop leaves the array, and no clamp has its bounds in the
wrong order. So the words are the integers that selectors are defined with, and every access is
one to an element.
-/

namespace JsonQuery

/-! ### Computations -/

/-- An index, counted from the start of an array. -/
def Word.fromStart (size position : Int64) : Except Halt Int64 :=
  if position < 0 then Word.add position size else .ok position

/-- The place of the element that an index names, or nothing if it leads out of the array. -/
def Word.place? (size position : Int64) : Except Halt (Option Int64) := do
  let place ← Word.fromStart size position
  return if 0 ≤ place ∧ place < size then some place else none

namespace Direction

/-- Where a slice begins. A backward one clamps only on one side, or on none. -/
def firstWord (d : Direction) (bound : Bound) (start size : Int64) : Except Halt Int64 :=
  match d, bound with
  | .forward, .absent => .ok 0
  | .forward, .fromStart => Word.clamp 0 size start
  | .forward, .fromEnd => do Word.clamp 0 size (← Word.add start size)
  | .backward, .absent => Word.sub size 1
  | .backward, .fromStart =>
    if start < 0 then .ok (-1) else do return min start (← Word.sub size 1)
  | .backward, .fromEnd => do return min (← Word.add start size) (← Word.sub size 1)

/-- Before which place it ends. -/
def limitWord (d : Direction) (bound : Bound) (stop size : Int64) : Except Halt Int64 :=
  match d, bound with
  | .forward, .absent => .ok size
  | .forward, .fromStart => Word.clamp 0 size stop
  | .forward, .fromEnd => do Word.clamp 0 size (← Word.add stop size)
  | .backward, .absent => .ok (-1)
  | .backward, .fromStart => do Word.clamp (-1) (← Word.sub size 1) stop
  | .backward, .fromEnd => do Word.clamp (-1) (← Word.sub size 1) (← Word.add stop size)

/-- Whether a loop goes on. -/
def goesOn (d : Direction) (i limit : Int64) : Bool :=
  match d with
  | .forward => i < limit
  | .backward => limit < i

end Direction

lemma Word.remaining_lt {size i step next : Int64} (hi : 0 ≤ i ∧ i < size) (hstep : step ≠ 0)
    (h : Word.add i step = .ok next) :
    (if 0 < step then size.toInt - next.toInt else next.toInt + 1).toNat <
      (if 0 < step then size.toInt - i.toInt else i.toInt + 1).toNat := by
  have hnext := Word.exactly_eq_ok_iff.1 h
  have hzero : (0 : Int64).toInt = 0 := rfl
  rw [ne_eq, ← Int64.toInt_inj] at hstep
  simp only [Int64.le_iff_toInt_le, Int64.lt_iff_toInt_lt] at *
  split_ifs <;> omega

/-- The loop of a slice: the places it takes elements from. Each is that of an access, after which
the step is added. -/
def Direction.walkWords (d : Direction) (size limit step i : Int64) : Except Halt (List Int64) :=
  if d.goesOn i limit then
    if 0 ≤ i ∧ i < size then
      if step = 0 then .error .endless
      else
        match _ : Word.add i step with
        | .error halt => .error halt
        | .ok next => (d.walkWords size limit step next).map (i :: ·)
    else .error .outside
  else .ok []
termination_by (if 0 < step then size.toInt - i.toInt else i.toInt + 1).toNat
decreasing_by exact Word.remaining_lt ‹_› ‹_› ‹_›

/-- The places of a whole slice of an array. -/
def SliceOpcode.places (o : SliceOpcode) (start stop step size : Int64) :
    Except Halt (List Int64) := do
  let first ← o.direction.firstWord o.start start size
  let limit ← o.direction.limitWord o.stop stop size
  o.direction.walkWords size limit step first

/-! ### Bounds -/

/-- The length of an array of less than 2⁵⁸ elements. -/
structure Word.IsLength (size : Int64) : Prop where
  nonneg : 0 ≤ size.toInt
  lt : size.toInt < 2 ^ 58

section Bounds

open Word

variable {size start stop position step : Int64} (hsize : IsLength size)

include hsize

lemma Word.IsLength.add (h : IsSafe position.toInt) :
    Gives (Word.add position size) (position.toInt + size.toInt) := by
  have := hsize.nonneg
  have := hsize.lt
  have := h.bounds
  exact gives_exactly (by omega) (by omega)

lemma Word.IsLength.pred : Gives (Word.sub size 1) (size.toInt - 1) := by
  have := hsize.nonneg
  have := hsize.lt
  have hrange : -2 ^ 63 ≤ size.toInt - 1 ∧ size.toInt - 1 < 2 ^ 63 := by omega
  exact gives_exactly hrange.1 hrange.2

lemma gives_firstWord (d : Direction) (bound : Bound) (h : IsSafe start.toInt) :
    Gives (d.firstWord bound start size) (d.first bound start.toInt size.toInt) := by
  have hnonneg := hsize.nonneg
  cases d with
  | forward =>
    cases bound with
    | absent => exact gives_ok rfl
    | fromStart => exact gives_clamp rfl rfl rfl hnonneg
    | fromEnd => exact (hsize.add h).bind fun _ hplace => gives_clamp rfl rfl hplace hnonneg
  | backward =>
    cases bound with
    | absent => exact hsize.pred
    | fromStart =>
      rw [Direction.firstWord, Direction.first, JsonQuery.clamp]
      have hzero : start < 0 ↔ start.toInt < 0 := Int64.lt_iff_toInt_lt
      -- The branch for a negative start is the lower side of the clamp.
      by_cases hneg : start.toInt < 0
      · rw [if_pos (hzero.2 hneg), Int.max_eq_left (by omega)]
        exact gives_ok rfl
      · rw [if_neg (hneg ∘ hzero.1), Int.max_eq_right (by omega)]
        exact hsize.pred.bind fun _ hlast => gives_min rfl hlast
    | fromEnd =>
      exact (hsize.add h).bind fun _ hplace => hsize.pred.bind fun _ hlast =>
        gives_min hplace hlast

lemma gives_limitWord (d : Direction) (bound : Bound) (h : IsSafe stop.toInt) :
    Gives (d.limitWord bound stop size) (d.limit bound stop.toInt size.toInt) := by
  have hnonneg := hsize.nonneg
  have hlow : -1 ≤ size.toInt - 1 := by omega
  cases d with
  | forward =>
    cases bound with
    | absent => exact gives_ok rfl
    | fromStart => exact gives_clamp rfl rfl rfl hnonneg
    | fromEnd => exact (hsize.add h).bind fun _ hplace => gives_clamp rfl rfl hplace hnonneg
  | backward =>
    cases bound with
    | absent => exact gives_ok rfl
    | fromStart => exact hsize.pred.bind fun _ hlast => gives_clamp rfl hlast rfl hlow
    | fromEnd =>
      exact hsize.pred.bind fun _ hlast => (hsize.add h).bind fun _ hplace =>
        gives_clamp rfl hlast hplace hlow

/-! ### Accesses -/

lemma gives_fromStart (h : IsSafe position.toInt) :
    Gives (Word.fromStart size position)
      (if position.toInt < 0 then position.toInt + size.toInt else position.toInt) := by
  have hzero : position < 0 ↔ position.toInt < 0 := Int64.lt_iff_toInt_lt
  rw [Word.fromStart]
  by_cases hneg : position.toInt < 0
  · rw [if_pos (hzero.2 hneg), if_pos hneg]
    exact hsize.add h
  · rw [if_neg (hneg ∘ hzero.1), if_neg hneg]
    exact gives_ok rfl

/-- The index of a selector names a place with words as with integers, and within the array. -/
lemma exists_place?_eq_ok (h : IsSafe position.toInt) :
    ∃ place?, Word.place? size position = .ok place? ∧
      (∀ place ∈ place?, 0 ≤ place.toInt ∧ place.toInt < size.toInt) ∧
      ∀ j : Json, j.elements.length = size.toInt → j.element? position.toInt =
        place?.bind fun place => j.elements[place.toInt.toNat]? := by
  obtain ⟨a, ha, hplace⟩ := gives_fromStart hsize h
  have hwithin : 0 ≤ a ∧ a < size ↔ 0 ≤ a.toInt ∧ a.toInt < size.toInt :=
    and_congr Int64.le_iff_toInt_le Int64.lt_iff_toInt_lt
  refine ⟨if 0 ≤ a ∧ a < size then some a else none, ?_, ?_, ?_⟩
  · rw [Word.place?, ha]
    rfl
  · intro place hmem
    split_ifs at hmem with hin
    · obtain rfl := Option.some.inj hmem
      exact hwithin.1 hin
    · cases hmem
  · intro j hlength
    rw [Json.element?, hlength, ← hplace]
    simp only [hwithin]
    split_ifs with hnonneg hin hin
    · rfl
    · exact List.getElem?_eq_none (by omega)
    · omega
    · rfl

end Bounds

/-! ### Loops -/

namespace Direction

/-- A step that leads the way that a loop goes. -/
def Leads (d : Direction) (step : Int) : Prop :=
  match d with
  | .forward => 0 < step
  | .backward => step < 0

/-- A first place from which no loop comes to the side of the array that it goes away from. -/
def StartsIn (d : Direction) (size i : Int) : Prop :=
  match d with
  | .forward => 0 ≤ i
  | .backward => i < size

/-- A limit at which a loop ends before it leaves the array on the side that it goes to. -/
def EndsIn (d : Direction) (size limit : Int) : Prop :=
  match d with
  | .forward => limit ≤ size
  | .backward => -1 ≤ limit

/-- The loop of a slice with integers. -/
def walk? (d : Direction) (i limit step : Int) : Option (List Int) :=
  match d with
  | .forward => SliceOpcode.upward? i limit step
  | .backward => SliceOpcode.downward? i limit step

variable {d : Direction} {size limit step i : Int64}

lemma goesOn_forward_iff : Direction.forward.goesOn i limit = true ↔ i.toInt < limit.toInt := by
  rw [goesOn, decide_eq_true_eq, Int64.lt_iff_toInt_lt]

lemma goesOn_backward_iff : Direction.backward.goesOn i limit = true ↔ limit.toInt < i.toInt := by
  rw [goesOn, decide_eq_true_eq, Int64.lt_iff_toInt_lt]

lemma walk?_of_goesOn (h : d.goesOn i limit = true) (hstep : d.Leads step.toInt) :
    d.walk? i.toInt limit.toInt step.toInt =
      (d.walk? (i.toInt + step.toInt) limit.toInt step.toInt).map (i.toInt :: ·) := by
  cases d with
  | forward =>
    have hstep : 0 < step.toInt := hstep
    rw [walk?, SliceOpcode.upward?, if_pos (goesOn_forward_iff.1 h), if_pos hstep, walk?]
  | backward =>
    have hstep : step.toInt < 0 := hstep
    rw [walk?, SliceOpcode.downward?, if_pos (goesOn_backward_iff.1 h), if_pos hstep, walk?]

lemma walk?_of_not_goesOn (h : ¬ d.goesOn i limit = true) (step : Int) :
    d.walk? i.toInt limit.toInt step = some [] := by
  cases d with
  | forward => rw [walk?, SliceOpcode.upward?, if_neg (h ∘ goesOn_forward_iff.2)]
  | backward => rw [walk?, SliceOpcode.downward?, if_neg (h ∘ goesOn_backward_iff.2)]

/-- As long as a loop goes on, it is in the array. -/
lemma within_of_goesOn (h : d.goesOn i limit = true) (hi : d.StartsIn size.toInt i.toInt)
    (hlimit : d.EndsIn size.toInt limit.toInt) : 0 ≤ i.toInt ∧ i.toInt < size.toInt := by
  cases d with
  | forward => exact ⟨hi, Int.lt_of_lt_of_le (goesOn_forward_iff.1 h) hlimit⟩
  | backward =>
    have hlt : limit.toInt < i.toInt := goesOn_backward_iff.1 h
    have hlimit : -1 ≤ limit.toInt := hlimit
    exact ⟨by omega, hi⟩

lemma StartsIn.onward {next : Int64} (hi : d.StartsIn size.toInt i.toInt) (hstep : d.Leads step.toInt)
    (hnext : next.toInt = i.toInt + step.toInt) : d.StartsIn size.toInt next.toInt := by
  cases d <;> simp only [StartsIn, Leads] at * <;> omega

/-- From within the array, a step never leads out of the words, whichever way it leads. -/
lemma gives_step (hsize : Word.IsLength size) (hstep : IsSafe step.toInt)
    (hi : 0 ≤ i.toInt ∧ i.toInt < size.toInt) :
    Word.Gives (Word.add i step) (i.toInt + step.toInt) := by
  have := hsize.lt
  have := hstep.bounds
  exact Word.gives_exactly (by omega) (by omega)

/-- A loop that goes the way of its step ends as it does with integers, and takes only elements
of the array. -/
theorem exists_walkWords_eq_ok (hsize : Word.IsLength size) (hstep : IsSafe step.toInt)
    (hlead : d.Leads step.toInt) (hlimit : d.EndsIn size.toInt limit.toInt)
    (hi : d.StartsIn size.toInt i.toInt) :
    ∃ is, d.walkWords size limit step i = .ok is ∧
      d.walk? i.toInt limit.toInt step.toInt = some (is.map Int64.toInt) ∧
      ∀ j ∈ is, 0 ≤ j.toInt ∧ j.toInt < size.toInt := by
  fun_induction walkWords d size limit step i with
  | case1 i hon hin hzero =>
    subst hzero
    cases d <;> cases hlead
  | case2 i hon hin hzero halt hadd =>
    obtain ⟨next, hnext, -⟩ := gives_step hsize hstep (within_of_goesOn hon hi hlimit)
    rw [hadd] at hnext
    cases hnext
  | case3 i hon hin hzero next hadd ih =>
    have hnext := Word.exactly_eq_ok_iff.1 hadd
    obtain ⟨is, his, hwalk, hmem⟩ := ih (hi.onward hlead hnext)
    refine ⟨i :: is, by rw [his]; rfl, ?_, ?_⟩
    · rw [walk?_of_goesOn hon hlead, ← hnext, hwalk]
      rfl
    · exact List.forall_mem_cons.2 ⟨within_of_goesOn hon hi hlimit, hmem⟩
  | case4 i hon hout =>
    refine absurd ?_ hout
    obtain ⟨hnonneg, hlt⟩ := within_of_goesOn hon hi hlimit
    exact ⟨Int64.le_iff_toInt_le.2 hnonneg, Int64.lt_iff_toInt_lt.2 hlt⟩
  | case5 i hoff => exact ⟨[], rfl, walk?_of_not_goesOn hoff _, by simp⟩

/-- Whichever way its step leads, nothing but an access outside of the array halts a loop. -/
theorem walkWords_eq_error (hsize : Word.IsLength size) (hstep : IsSafe step.toInt)
    (hzero : step ≠ 0) {halt : Halt} (h : d.walkWords size limit step i = .error halt) :
    halt = .outside := by
  fun_induction walkWords d size limit step i with
  | case1 i hon hin heq => exact absurd heq hzero
  | case2 i hon hin hne halt' hadd =>
    have hwithin : 0 ≤ i.toInt ∧ i.toInt < size.toInt :=
      ⟨Int64.le_iff_toInt_le.1 hin.1, Int64.lt_iff_toInt_lt.1 hin.2⟩
    obtain ⟨next, hnext, -⟩ := gives_step hsize hstep hwithin
    rw [hadd] at hnext
    cases hnext
  | case3 i hon hin hne next hadd ih =>
    cases hrest : d.walkWords size limit step next with
    | ok is =>
      rw [hrest] at h
      cases h
    | error halt' =>
      rw [hrest] at h
      cases h
      exact ih hrest
  | case4 => cases h; rfl
  | case5 => cases h

end Direction

/-! ### Whole slices -/

section Slices

variable {o : SliceOpcode} {size start stop step : Int64} (hsize : Word.IsLength size)

lemma SliceOpcode.indices?_eq_walk? (o : SliceOpcode) (numbers : SliceNumbers) (size : Int) :
    o.indices? numbers size = o.direction.walk? (o.direction.first o.start numbers.start size)
      (o.direction.limit o.stop numbers.stop size) numbers.step := by
  obtain ⟨direction, bounds⟩ := o
  cases direction <;> rfl

include hsize

lemma exists_places_eq_ok (hstart : IsSafe start.toInt) (hstop : IsSafe stop.toInt)
    (hstep : IsSafe step.toInt) (hagree : o.Agrees ⟨start.toInt, stop.toInt, step.toInt⟩) :
    ∃ is, o.places start stop step size = .ok is ∧
      o.indices? ⟨start.toInt, stop.toInt, step.toInt⟩ size.toInt = some (is.map Int64.toInt) ∧
      ∀ i ∈ is, 0 ≤ i.toInt ∧ i.toInt < size.toInt := by
  obtain ⟨direction, startBound, stopBound⟩ := o
  obtain ⟨first, hfirst, heq⟩ := gives_firstWord hsize direction startBound hstart
  obtain ⟨limit, hlimit, heq'⟩ := gives_limitWord hsize direction stopBound hstop
  have hends : direction.StartsIn size.toInt first.toInt ∧
      direction.EndsIn size.toInt limit.toInt := by
    rw [heq, heq']
    cases direction with
    | forward =>
      exact ⟨(SliceOpcode.first_forward_mem startBound _ hsize.nonneg).1,
        (SliceOpcode.limit_forward_mem stopBound _ hsize.nonneg).2⟩
    | backward =>
      exact ⟨SliceOpcode.first_backward_lt startBound _ hsize.nonneg,
        (SliceOpcode.limit_backward_mem stopBound _ hsize.nonneg).1⟩
  have hlead : direction.Leads step.toInt := by cases direction <;> exact hagree
  obtain ⟨is, his, hwalk, hmem⟩ :=
    Direction.exists_walkWords_eq_ok hsize hstep hlead hends.2 hends.1
  refine ⟨is, ?_, ?_, hmem⟩
  · rw [SliceOpcode.places, hfirst, hlimit]
    exact his
  · rw [SliceOpcode.indices?_eq_walk?, ← heq, ← heq', hwalk]

lemma places_eq_error (hstart : IsSafe start.toInt) (hstop : IsSafe stop.toInt)
    (hstep : IsSafe step.toInt) (hzero : step ≠ 0) {halt : Halt}
    (h : o.places start stop step size = .error halt) : halt = .outside := by
  obtain ⟨first, hfirst, -⟩ := gives_firstWord hsize o.direction o.start hstart
  obtain ⟨limit, hlimit, -⟩ := gives_limitWord hsize o.direction o.stop hstop
  rw [SliceOpcode.places, hfirst, hlimit] at h
  exact Direction.walkWords_eq_error hsize hstep hzero h

end Slices

/-- Computing with words is exact for the arrays of one length: it halts at no sum and at no
clamp, gives what computing with integers gives, and leads to no place outside of the array. -/
structure Word.Exact (size : Int64) : Prop where
  /-- Indices name elements of the array, or nothing. -/
  place : ∀ position : Int64, IsSafe position.toInt →
    ∃ place?, Word.place? size position = .ok place? ∧
      (∀ place ∈ place?, 0 ≤ place.toInt ∧ place.toInt < size.toInt) ∧
      ∀ j : Json, j.elements.length = size.toInt → j.element? position.toInt =
        place?.bind fun place => j.elements[place.toInt.toNat]?
  /-- The bounds of slices do not halt, of whatever sign they are. -/
  first : ∀ (d : Direction) (bound : Bound) (start : Int64), IsSafe start.toInt →
    Word.Gives (d.firstWord bound start size) (d.first bound start.toInt size.toInt)
  limit : ∀ (d : Direction) (bound : Bound) (stop : Int64), IsSafe stop.toInt →
    Word.Gives (d.limitWord bound stop size) (d.limit bound stop.toInt size.toInt)
  first_forward : ∀ (bound : Bound) (start : Int),
    0 ≤ Direction.forward.first bound start size.toInt ∧
      Direction.forward.first bound start size.toInt ≤ size.toInt
  limit_forward : ∀ (bound : Bound) (stop : Int),
    0 ≤ Direction.forward.limit bound stop size.toInt ∧
      Direction.forward.limit bound stop size.toInt ≤ size.toInt
  first_backward : ∀ (bound : Bound) (start : Int),
    Direction.backward.first bound start size.toInt ≤ size.toInt - 1
  limit_backward : ∀ (bound : Bound) (stop : Int),
    -1 ≤ Direction.backward.limit bound stop size.toInt ∧
      Direction.backward.limit bound stop size.toInt ≤ size.toInt - 1
  /-- Slices take elements of the array, the same as with integers. -/
  places : ∀ (o : SliceOpcode) (start stop step : Int64), IsSafe start.toInt →
    IsSafe stop.toInt → IsSafe step.toInt → o.Agrees ⟨start.toInt, stop.toInt, step.toInt⟩ →
    ∃ is, o.places start stop step size = .ok is ∧
      o.indices? ⟨start.toInt, stop.toInt, step.toInt⟩ size.toInt = some (is.map Int64.toInt) ∧
      ∀ i ∈ is, 0 ≤ i.toInt ∧ i.toInt < size.toInt
  /-- A step against the direction of its opcode halts at an access, if at all. -/
  halts : ∀ (o : SliceOpcode) (start stop step : Int64), IsSafe start.toInt →
    IsSafe stop.toInt → IsSafe step.toInt → step ≠ 0 →
    ∀ halt, o.places start stop step size = .error halt → halt = .outside

end JsonQuery
