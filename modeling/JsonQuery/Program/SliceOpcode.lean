import JsonQuery.Query.Basic

/-!
How slices run. The direction of a slice, and which of its bounds are written and with what
sign, are known from the query; they choose one of eighteen opcodes, and only the length of
the array is left for the time of running.
-/

namespace JsonQuery

inductive Direction where
  | forward
  | backward
  deriving DecidableEq

/-- What is known of a bound: that it is absent, or whether it counts from the start or from
the end of the array. -/
inductive Bound where
  | absent
  | fromStart
  | fromEnd
  deriving DecidableEq

def Bound.of : Option Int → Bound
  | none => .absent
  | some n => if 0 ≤ n then .fromStart else .fromEnd

structure SliceOpcode where
  direction : Direction
  start : Bound
  stop : Bound
  deriving DecidableEq

/-- The numbers of a slice; absent bounds are zero, since the opcode knows of them. -/
structure SliceNumbers where
  start : Int
  stop : Int
  step : Int
  deriving DecidableEq, Hashable

def SliceNumbers.text (n : SliceNumbers) : String :=
  toString n.start ++ ":" ++ toString n.stop ++ ":" ++ toString n.step

/-- How a slice is compiled: a step of zero takes nothing, and a step of one without bounds
takes everything. -/
inductive SliceForm where
  | nothing
  | everything
  | opcode (opcode : SliceOpcode)
  deriving DecidableEq

namespace Slice

def form (s : Slice) : SliceForm :=
  if s.step = 0 then .nothing
  else if s.step = 1 ∧ s.start = none ∧ s.stop = none then .everything
  else .opcode ⟨if 0 < s.step then .forward else .backward, .of s.start, .of s.stop⟩

def numbers (s : Slice) : SliceNumbers := ⟨s.start.getD 0, s.stop.getD 0, s.step⟩

end Slice

namespace SliceOpcode

/-- `F` or `B` for the direction, `1` or `0` for each bound that is written or absent, and `P`
or `N` for the sign of each that is written. -/
def mnemonic (o : SliceOpcode) : String :=
  "SLICE_" ++ (match o.direction with | .forward => "F" | .backward => "B") ++
    written o.start ++ written o.stop ++ sign o.start ++ sign o.stop
where
  written : Bound → String
    | .absent => "0"
    | _ => "1"
  sign : Bound → String
    | .absent => ""
    | .fromStart => "P"
    | .fromEnd => "N"

def all : List SliceOpcode :=
  [Direction.forward, .backward].flatMap fun direction =>
    [Bound.absent, .fromStart, .fromEnd].flatMap fun start =>
      [Bound.absent, .fromStart, .fromEnd].map fun stop => ⟨direction, start, stop⟩

end SliceOpcode

/-! ### Bounds -/

def clamp (low high n : Int) : Int := max low (min n high)

namespace Direction

/-- The index at which a slice of an array begins, given its written start. -/
def first (d : Direction) (bound : Bound) (start size : Int) : Int :=
  match d, bound with
  | .forward, .absent => 0
  | .forward, .fromStart => clamp 0 size start
  | .forward, .fromEnd => clamp 0 size (start + size)
  | .backward, .absent => size - 1
  | .backward, .fromStart => clamp (-1) (size - 1) start
  -- a start far below the array stays there, and the slice never enters it
  | .backward, .fromEnd => min (start + size) (size - 1)

/-- The index before which it ends, given its written end. -/
def limit (d : Direction) (bound : Bound) (stop size : Int) : Int :=
  match d, bound with
  | .forward, .absent => size
  | .forward, .fromStart => clamp 0 size stop
  | .forward, .fromEnd => clamp 0 size (stop + size)
  | .backward, .absent => -1
  | .backward, .fromStart => clamp (-1) (size - 1) stop
  | .backward, .fromEnd => clamp (-1) (size - 1) (stop + size)

end Direction

namespace SliceOpcode

/-- The indices from one up to another; none if there are some and the step never leads out
of them. -/
def upward? (i limit step : Int) : Option (List Int) :=
  if i < limit then
    if 0 < step then (upward? (i + step) limit step).map (i :: ·) else none
  else some []
termination_by (limit - i).toNat
decreasing_by omega

/-- The indices from one down to another, in the same way. -/
def downward? (i limit step : Int) : Option (List Int) :=
  if limit < i then
    if step < 0 then (downward? (i + step) limit step).map (i :: ·) else none
  else some []
termination_by (i - limit).toNat
decreasing_by omega

/-- The indices that a slice takes from an array of some length, in the order it takes
them. -/
def indices? (o : SliceOpcode) (n : SliceNumbers) (size : Int) : Option (List Int) :=
  let first := o.direction.first o.start n.start size
  let limit := o.direction.limit o.stop n.stop size
  match o.direction with
  | .forward => upward? first limit n.step
  | .backward => downward? first limit n.step

end SliceOpcode
end JsonQuery
