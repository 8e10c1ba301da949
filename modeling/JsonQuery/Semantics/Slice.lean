import JsonQuery.Json.Basic
import JsonQuery.Query.Basic

/-!
What a slice of an array means, said without opcodes: its two bounds are placed in the array,
and its indices are the numbers between them that the step leads to.
-/

namespace JsonQuery.Slice

/-- The place of a bound in an array of some length; a negative one counts from the end. -/
def place (size bound : Int) : Int := if 0 ≤ bound then bound else bound + size

/-- Where an upward slice begins, and where it ends. An absent bound is the first index, or
the one after the last. -/
def upwardBounds (s : Slice) (size : Int) : Int × Int :=
  (max 0 (min (place size (s.start.getD 0)) size),
    max 0 (min (place size (s.stop.getD size)) size))

/-- Where a downward slice begins, and where it ends. An absent bound is the last index, or
the one before the first. -/
def downwardBounds (s : Slice) (size : Int) : Int × Int :=
  (max (-1) (min (place size (s.start.getD (size - 1))) (size - 1)),
    max (-1) (min (place size (s.stop.getD (-size - 1))) (size - 1)))

/-- The numbers that a step leads to from a first one, as many as an array could have. -/
def progression (first step : Int) (count : Nat) : List Int :=
  (List.range count).map fun k : Nat => first + k * step

def positions (s : Slice) (size : Nat) : List Int :=
  if 0 < s.step then
    let (first, limit) := s.upwardBounds size
    (progression first s.step size).filter (· < limit)
  else if s.step < 0 then
    let (first, limit) := s.downwardBounds size
    (progression first s.step size).filter (limit < ·)
  else []

/-- The elements that a slice takes from a node; only arrays have elements. -/
def elements (s : Slice) : Json → List Json
  | .array items => (s.positions items.length).filterMap fun i => items[i.toNat]?
  | _ => []

end JsonQuery.Slice
