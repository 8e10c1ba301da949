/-!
Finite double-precision numbers, held exactly.

Every finite double is a sign and a whole number of units of `2⁻¹⁰⁷⁴`, so comparing two of
them is comparing two integers, and reading or writing one is rounding a quotient of natural
numbers. Nothing here does floating-point arithmetic.
-/

namespace JsonQuery

def unitsOfOne : Nat := Nat.pow 2 1074

/-- Doubles have fewer units than this, the number of units in `2¹⁰²⁴`. -/
def unitBound : Nat := Nat.pow 2 2098

theorem unitBound_pos : 0 < unitBound := by
  unfold unitBound
  generalize 2098 = n
  exact Nat.two_pow_pos n

/-- The counts of units a double can hold: 53 significant bits, and a value below `2¹⁰²⁴`. -/
def Representable (units : Nat) : Prop :=
  units < unitBound ∧ Nat.pow 2 (units.log2 - 52) ∣ units

instance (units : Nat) : Decidable (Representable units) :=
  inferInstanceAs (Decidable (_ ∧ _))

/-- A finite double; the two zeros differ. -/
structure Double where
  negative : Bool
  units : Nat
  representable : Representable units
  deriving DecidableEq

/-- The quotient rounded to the nearest whole number, a half going to the even neighbour. -/
def roundDiv (num den : Nat) : Nat :=
  let q := num / den
  let r := num % den
  if 2 * r < den then q
  else if den < 2 * r then q + 1
  else q + q % 2

/-- The quotient rounded to 53 significant bits, and never finer than one. -/
def roundUnits (num den : Nat) : Nat :=
  let shift := (num / den).log2 - 52
  roundDiv num (den * Nat.pow 2 shift) * Nat.pow 2 shift

theorem roundDiv_mul_right {num den c : Nat} (hc : 0 < c) :
    roundDiv (num * c) (den * c) = roundDiv num den := by
  have h1 : num * c / (den * c) = num / den := Nat.mul_div_mul_right _ _ hc
  have h2 : num * c % (den * c) = num % den * c := Nat.mul_mod_mul_right _ _ _
  have h3 : (2 * (num % den * c) < den * c) ↔ 2 * (num % den) < den := by
    rw [← Nat.mul_assoc]; exact Nat.mul_lt_mul_right hc
  have h4 : (den * c < 2 * (num % den * c)) ↔ den < 2 * (num % den) := by
    rw [← Nat.mul_assoc]; exact Nat.mul_lt_mul_right hc
  simp only [roundDiv, h1, h2, h3, h4]

theorem roundUnits_mul_right {num den c : Nat} (hc : 0 < c) :
    roundUnits (num * c) (den * c) = roundUnits num den := by
  have h1 : num * c / (den * c) = num / den := Nat.mul_div_mul_right _ _ hc
  simp only [roundUnits, h1]
  rw [Nat.mul_right_comm, roundDiv_mul_right hc]

theorem roundDiv_mul_self {q den : Nat} (hd : 0 < den) : roundDiv (q * den) den = q := by
  simp [roundDiv, Nat.mul_div_cancel _ hd, hd]

theorem roundUnits_one {units : Nat} (h : Nat.pow 2 (units.log2 - 52) ∣ units) :
    roundUnits units 1 = units := by
  simp only [roundUnits, Nat.div_one, Nat.one_mul]
  generalize units.log2 - 52 = k at h ⊢
  have hk : 0 < Nat.pow 2 k := Nat.two_pow_pos k
  obtain ⟨m, rfl⟩ := h
  rw [Nat.mul_comm (Nat.pow 2 k) m, roundDiv_mul_self hk]

namespace Double

/-- The double nearest to `num / den`, a half going to the even neighbour; none when that
is beyond the largest double. -/
def ofRatio? (negative : Bool) (num den : Nat) : Option Double :=
  let units := roundUnits (num * unitsOfOne) den
  if h : Representable units then some ⟨negative, units, h⟩ else none

def zero (negative : Bool) : Double := ⟨negative, 0, unitBound_pos, Nat.dvd_zero _⟩

/-- The double nearest to an integer. Every integer of 64 bits has one; larger ones may not,
and are read as zero. -/
def ofInt (n : Int) : Double :=
  (ofRatio? (n < 0) n.natAbs 1).getD (zero false)

/-- The number of units with its sign, which puts doubles in their order by value. -/
def signed (x : Double) : Int :=
  if x.negative then -x.units else x.units

/-- The order of two doubles by value; the two zeros are equal. -/
def order (x y : Double) : Ordering := compare x.signed y.signed

/-- The largest magnitude below which every integer is a double of its own. -/
def maxSafe : Nat := Nat.pow 2 53 - 1

/-- The integer a double stands for, if it is one and no other integer rounds to it. -/
def toInt? (x : Double) : Option Int :=
  let n := x.units / unitsOfOne
  if x.units % unitsOfOne = 0 ∧ n ≤ maxSafe then
    some (if x.negative then -n else n)
  else none

end Double
end JsonQuery
