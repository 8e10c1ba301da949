import JsonQuery.Number.Double

/-!
Decimals: a digit string times a power of ten. A double is read from a decimal by rounding
once, and is written with the fewest digits that read back as it.
-/

namespace JsonQuery

/-- The number `digits · 10 ^ exponent`. -/
structure Decimal where
  digits : Nat
  exponent : Int
  deriving DecidableEq

namespace Decimal

/-- The nearest double, or none beyond the largest one. -/
def toDouble? (d : Decimal) (negative : Bool) : Option Double :=
  if d.digits = 0 then some (.zero negative)
  -- two tests settle the exponents whose power of ten would be too large to compute
  else if 400 < d.exponent then none
  else if d.exponent < -(d.digits.log2 + 401) then some (.zero negative)
  else if 0 ≤ d.exponent then
    Double.ofRatio? negative (d.digits * Nat.pow 10 d.exponent.toNat) 1
  else
    Double.ofRatio? negative d.digits (Nat.pow 10 (-d.exponent).toNat)

def trim (d : Decimal) : Decimal := go d.digits d.exponent
where
  go (n : Nat) (e : Int) : Decimal :=
    if h : n ≠ 0 ∧ n % 10 = 0 then go (n / 10) (e + 1) else ⟨n, e⟩
  termination_by n
  decreasing_by omega

end Decimal

/-! ### The shortest digits of a double -/

/-- Five to the power 1074: a double with `u` units is `u · 5¹⁰⁷⁴ · 10⁻¹⁰⁷⁴`. -/
def fives : Nat := Nat.pow 5 1074

/-- Which of two decimals is written if the double is halfway between them. -/
inductive Tie where
  | up
  | even
  deriving DecidableEq

/-- Whether the multiple `low` of `grid` is written rather than the next one above, where
`rest` is how far the value is above it. -/
def Tie.takesLow (tie : Tie) (low rest grid : Nat) : Prop :=
  2 * rest < grid ∨ (2 * rest = grid ∧ tie = .even ∧ low % 2 = 0)

instance (tie : Tie) (low rest grid : Nat) : Decidable (tie.takesLow low rest grid) := by
  unfold Tie.takesLow
  infer_instance

/-- Of the two neighbours of `value` among the multiples of `10 ^ k`, the nearer one that
reads back, else the other one if it does. -/
def neighbour? (tie : Tie) (units value k : Nat) : Option Nat :=
  let grid := Nat.pow 10 k
  let low := value / grid
  let (near, far) :=
    if tie.takesLow low (value % grid) grid then (low, low + 1) else (low + 1, low)
  if roundUnits (near * grid) fives = units then some near
  else if roundUnits (far * grid) fives = units then some far
  else none

/-- The coarsest grid, from `10 ^ k` down, on which a neighbour of `value` reads back as
`units`; on the last one `value` itself does. -/
def coarsest (tie : Tie) (units value : Nat) : Nat → Nat × Nat
  | 0 => (value, 0)
  | k + 1 =>
    match neighbour? tie units value (k + 1) with
    | some n => (n, k + 1)
    | none => coarsest tie units value k

namespace Double

/-- The magnitude written with the fewest digits that read back as the same double, and of
those the nearest to it. -/
def shortest (tie : Tie) (x : Double) : Decimal :=
  if x.units = 0 then ⟨0, 0⟩ else
  let value := x.units * fives
  let found := coarsest tie x.units value ((Nat.toDigits 10 value).length - 1)
  Decimal.trim ⟨found.1, (found.2 : Int) - 1074⟩

end Double
end JsonQuery
