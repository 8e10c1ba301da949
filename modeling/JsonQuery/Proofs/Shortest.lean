import JsonQuery.Proofs.Digits
import Mathlib.Tactic.Ring

/-!
The shortest digits of a double read back as it. Every decimal met on the way has an exponent
of at least −1074, so it is a whole number of units of `10⁻¹⁰⁷⁴`; that number is kept by the
layout of the digits, and rounding it is what reading does.
-/

namespace JsonQuery

/-- The number of units of `10⁻¹⁰⁷⁴`, for decimals with an exponent of at least −1074. -/
def Decimal.scaled (d : Decimal) : Nat := d.digits * 10 ^ (d.exponent + 1074).toNat

lemma fives_pos : 0 < fives := by
  unfold fives
  generalize 1074 = n
  exact Nat.pow_pos (by decide)

lemma unitsOfOne_pos : 0 < unitsOfOne := by
  unfold unitsOfOne
  generalize 1074 = n
  exact Nat.two_pow_pos n

lemma unitsOfOne_mul_fives : unitsOfOne * fives = 10 ^ 1074 := by
  unfold unitsOfOne fives
  generalize 1074 = n
  rw [Nat.pow_eq, Nat.pow_eq, ← Nat.mul_pow]

/-! ### Rounding -/

lemma roundUnits_eq_zero {num den : Nat} (h : 2 * num < den) : roundUnits num den = 0 := by
  have hdiv : num / den = 0 := Nat.div_eq_of_lt (by omega)
  have hmod : num % den = num := Nat.mod_eq_of_lt (by omega)
  have hlog : Nat.log2 0 = 0 := by decide
  simp [roundUnits, roundDiv, hdiv, hmod, hlog, h]

lemma roundUnits_zero : roundUnits 0 fives = 0 := by
  refine roundUnits_eq_zero ?_
  rw [Nat.mul_zero]
  exact fives_pos

lemma roundUnits_units (x : Double) : roundUnits (x.units * fives) fives = x.units := by
  have h : roundUnits (x.units * fives) (1 * fives) = roundUnits x.units 1 :=
    roundUnits_mul_right fives_pos
  rw [Nat.one_mul] at h
  rw [h, roundUnits_one x.representable.2]

/-- The double of so many units of `10⁻¹⁰⁷⁴`. -/
def Double.ofScaled? (negative : Bool) (value : Nat) : Option Double :=
  if h : Representable (roundUnits value fives) then some ⟨negative, _, h⟩ else none

lemma Double.ofScaled?_eq {x : Double} {value : Nat} (h : roundUnits value fives = x.units) :
    Double.ofScaled? x.negative value = some x := by
  have hx : Representable (roundUnits value fives) := by
    rw [h]
    exact x.representable
  rw [ofScaled?, dif_pos hx]
  cases x
  simp only at h
  simp only [h]

lemma Double.ofScaled?_eq_zero (negative : Bool) {value : Nat} (h : 2 * value < fives) :
    Double.ofScaled? negative value = some (Double.zero negative) :=
  Double.ofScaled?_eq (x := Double.zero negative) (roundUnits_eq_zero h)

/-- A quotient is read as its number of units of `10⁻¹⁰⁷⁴`. -/
lemma Double.ofRatio?_eq_ofScaled? (negative : Bool) {num den value : Nat} (hden : 0 < den)
    (h : num * 10 ^ 1074 = value * den) :
    Double.ofRatio? negative num den = Double.ofScaled? negative value := by
  have hunits : roundUnits (num * unitsOfOne) den = roundUnits value fives := by
    calc roundUnits (num * unitsOfOne) den
        = roundUnits (num * unitsOfOne * fives) (den * fives) :=
          (roundUnits_mul_right fives_pos).symm
      _ = roundUnits (value * den) (fives * den) := by
          rw [Nat.mul_assoc, unitsOfOne_mul_fives, h, Nat.mul_comm den]
      _ = roundUnits value fives := roundUnits_mul_right hden
  simp only [ofRatio?, ofScaled?, hunits]

namespace Decimal

variable {d : Decimal}

/-- Below the least exponent that matters, a decimal is less than half a unit. -/
lemma scaled_lt_of_exponent_lt (hd : -1074 ≤ d.exponent)
    (h : d.exponent < -(d.digits.log2 + 401)) : 2 * d.scaled < fives := by
  unfold scaled
  generalize hm : (d.exponent + 1074).toNat = m
  -- two to the power `2 k` is four to the power `k`, and four is less than five
  obtain ⟨k, hk, hlog⟩ : ∃ k, k + m ≤ 1074 ∧ d.digits.log2 + m + 2 ≤ 2 * k :=
    ⟨337, by omega, by omega⟩
  calc 2 * (d.digits * 10 ^ m)
      < 2 * (2 ^ (d.digits.log2 + 1) * 10 ^ m) := by
        refine Nat.mul_lt_mul_of_pos_left (Nat.mul_lt_mul_of_pos_right ?_ ?_) (by decide)
        · exact Nat.lt_log2_self
        · exact Nat.pow_pos (by decide)
    _ = 2 ^ (d.digits.log2 + m + 2) * 5 ^ m := by
        rw [show (10 : Nat) = 2 * 5 from rfl, Nat.mul_pow]
        ring
    _ ≤ 2 ^ (2 * k) * 5 ^ m :=
        Nat.mul_le_mul_right _ (Nat.pow_le_pow_right (by decide) (by omega))
    _ = 4 ^ k * 5 ^ m := by rw [Nat.pow_mul]
    _ ≤ 5 ^ k * 5 ^ m := Nat.mul_le_mul_right _ (Nat.pow_le_pow_left (by decide) _)
    _ = 5 ^ (k + m) := (Nat.pow_add ..).symm
    _ ≤ fives := by
        unfold fives
        generalize 1074 = n at hk ⊢
        exact Nat.pow_le_pow_right (by decide) hk

/-- **Reading rounds the scaled number.** -/
lemma toDouble?_eq_ofScaled? (negative : Bool) (hlow : -1074 ≤ d.exponent)
    (hhigh : d.exponent ≤ 400) : d.toDouble? negative = Double.ofScaled? negative d.scaled := by
  rw [toDouble?]
  split_ifs with hzero hlarge hsmall hwhole
  · have hscaled : d.scaled = 0 := by rw [scaled, hzero, Nat.zero_mul]
    rw [hscaled, Double.ofScaled?_eq_zero negative fives_pos]
  · omega
  · rw [Double.ofScaled?_eq_zero negative (scaled_lt_of_exponent_lt hlow hsmall)]
  · refine Double.ofRatio?_eq_ofScaled? negative Nat.one_pos ?_
    rw [scaled, Nat.pow_eq, Nat.mul_one, Nat.mul_assoc, ← Nat.pow_add]
    congr 2
    omega
  · refine Double.ofRatio?_eq_ofScaled? negative (Nat.pow_pos (by decide)) ?_
    rw [scaled, Nat.pow_eq, Nat.mul_assoc, ← Nat.pow_add]
    congr 2
    omega

/-- Zeros at the end of the digits go over to the exponent. -/
lemma scaled_trim (hd : -1074 ≤ d.exponent) :
    d.trim.scaled = d.scaled ∧ d.exponent ≤ d.trim.exponent := by
  obtain ⟨n, e⟩ := d
  rw [trim]
  dsimp only at hd ⊢
  fun_induction trim.go n e with
  | case1 n e hn ih =>
    obtain ⟨hscaled, hexponent⟩ := ih (by omega)
    have hten : n / 10 * 10 = n := Nat.div_mul_cancel (Nat.dvd_of_mod_eq_zero hn.2)
    have hsucc : (e + 1 + 1074).toNat = (e + 1074).toNat + 1 := by omega
    refine ⟨?_, by omega⟩
    rw [hscaled]
    simp only [scaled]
    rw [hsucc, Nat.pow_succ, Nat.mul_comm _ 10, ← Nat.mul_assoc, hten]
  | case2 n e hn => exact ⟨rfl, le_refl e⟩

end Decimal

/-! ### The shortest digits -/

lemma coarsest_zero (tie : Tie) (units value : Nat) : coarsest tie units value 0 = (value, 0) :=
  rfl

lemma coarsest_succ (tie : Tie) (units value k : Nat) :
    coarsest tie units value (k + 1) = match neighbour? tie units value (k + 1) with
      | some n => (n, k + 1)
      | none => coarsest tie units value k := by
  exact rfl

lemma roundUnits_of_either {near far grid units n : Nat}
    (h : (if roundUnits (near * grid) fives = units then some near
      else if roundUnits (far * grid) fives = units then some far else none) = some n) :
    roundUnits (n * grid) fives = units := by
  split_ifs at h with hnear hfar
  · rwa [← Option.some.inj h]
  · rwa [← Option.some.inj h]

/-- A multiple is only taken for the value if it reads back. -/
lemma roundUnits_neighbour {tie : Tie} {units value k n : Nat}
    (h : neighbour? tie units value k = some n) : roundUnits (n * 10 ^ k) fives = units :=
  roundUnits_of_either h

lemma roundUnits_coarsest (tie : Tie) {units value : Nat}
    (hvalue : roundUnits value fives = units) (k : Nat) :
    roundUnits ((coarsest tie units value k).1 * 10 ^ (coarsest tie units value k).2) fives =
      units := by
  induction k with
  | zero =>
    rw [coarsest_zero, Nat.pow_zero, Nat.mul_one]
    exact hvalue
  | succ k ih =>
    rw [coarsest_succ]
    cases hn : neighbour? tie units value (k + 1) with
    | some n => exact roundUnits_neighbour hn
    | none => exact ih

lemma roundUnits_trim_coarsest {tie : Tie} {units value : Nat}
    (hvalue : roundUnits value fives = units) (k : Nat) :
    roundUnits (Decimal.trim ⟨(coarsest tie units value k).1,
        ((coarsest tie units value k).2 : Int) - 1074⟩).scaled fives = units ∧
      -1074 ≤ (Decimal.trim ⟨(coarsest tie units value k).1,
        ((coarsest tie units value k).2 : Int) - 1074⟩).exponent := by
  have hround := roundUnits_coarsest tie hvalue k
  generalize coarsest tie units value k = found at hround ⊢
  obtain ⟨hscaled, hexponent⟩ :=
    Decimal.scaled_trim (d := ⟨found.1, (found.2 : Int) - 1074⟩) (by dsimp only; omega)
  refine ⟨?_, ?_⟩
  · rw [hscaled, Decimal.scaled]
    dsimp only
    rw [Int.sub_add_cancel, Int.toNat_natCast, hround]
  · dsimp only at hexponent
    omega

namespace Double

/-- **The shortest digits round to the double.** -/
theorem roundUnits_shortest (tie : Tie) (x : Double) :
    roundUnits (x.shortest tie).scaled fives = x.units ∧ -1074 ≤ (x.shortest tie).exponent := by
  rw [shortest]
  split_ifs with hzero
  · refine ⟨?_, by decide⟩
    rw [hzero, Decimal.scaled, Nat.zero_mul, roundUnits_zero]
  · exact roundUnits_trim_coarsest (roundUnits_units x) _

lemma shortest_of_digits_eq_zero {tie : Tie} {x : Double} (h : (x.shortest tie).digits = 0) :
    x.shortest tie = ⟨0, 0⟩ := by
  have hunits : x.units = 0 := by
    have hround := (roundUnits_shortest tie x).1
    rwa [Decimal.scaled, h, Nat.zero_mul, roundUnits_zero, eq_comm] at hround
  rw [shortest, if_pos hunits]

/-- Zero is written without zeros after it. -/
lemma exponent_shortest_of_zero {tie : Tie} {x : Double} (h : (x.shortest tie).digits = 0) :
    (x.shortest tie).exponent ≤ 0 := by
  rw [shortest_of_digits_eq_zero h]

end Double

/-- Whole digits denote as many units as the decimal that they were made of. -/
lemma NumberToken.double?_fixed {d : Decimal} (negative : Bool) {whole : List Char}
    {fraction : Option (List Char)} (hlow : -1074 ≤ d.exponent)
    (hdigits : natOfDigits (whole ++ fraction.getD []) = d.digits * 10 ^ d.exponent.toNat)
    (hlength : (fraction.getD []).length = (-d.exponent).toNat) :
    (⟨negative, whole, fraction, none⟩ : NumberToken).double? =
      Double.ofScaled? negative d.scaled := by
  rw [double?, decimal]
  dsimp only
  rw [hdigits, hlength,
    Decimal.toDouble?_eq_ofScaled? negative (by dsimp only; omega) (by dsimp only; omega)]
  simp only [Decimal.scaled]
  rw [Nat.mul_assoc, ← Nat.pow_add]
  congr 3
  omega

/-- The digits of a decimal that rounds to a double are read as the double. -/
lemma Double.isNumber_fixed {x : Double} {d : Decimal} {whole : List Char}
    {fraction : Option (List Char)} (hfixed : NumberToken.IsFixed whole fraction)
    (hlow : -1074 ≤ d.exponent)
    (hdigits : natOfDigits (whole ++ fraction.getD []) = d.digits * 10 ^ d.exponent.toNat)
    (hlength : (fraction.getD []).length = (-d.exponent).toNat)
    (hround : roundUnits d.scaled fives = x.units) :
    Grammar.IsNumber (x.signChars ++ (whole ++ NumberToken.pointChars fraction)) x := by
  have hscan := NumberToken.scan?_fixed x.negative hfixed (avoids_nil _) rfl
  rw [List.append_nil] at hscan
  rw [Grammar.IsNumber, Token.number?_plain, signChars, hscan, Option.bind_some,
    NumberToken.double?_fixed x.negative hlow hdigits hlength, ofScaled?_eq hround]
  rfl

lemma Double.isNumber_plain (tie : Tie) (x : Double) :
    Grammar.IsNumber (x.signChars ++ (x.shortest tie).plain) x := by
  obtain ⟨whole, fraction, hfixed, hplain, hdigits, hlength⟩ :=
    (x.shortest tie).exists_fixed exponent_shortest_of_zero
  obtain ⟨hround, hexponent⟩ := roundUnits_shortest tie x
  rw [hplain]
  exact isNumber_fixed hfixed hexponent hdigits hlength hround

/-- **Plain digits are read back.** -/
theorem Double.isNumber_plainChars (x : Double) : Grammar.IsNumber x.plainChars x :=
  isNumber_plain .up x

end JsonQuery
