import JsonQuery.Json.Text
import JsonQuery.Proofs.Shortest
import JsonQuery.Proofs.Spellings
import JsonQuery.Proofs.WellFormed
import JsonQuery.Query.Literal

/-!
Numbers of JSON texts read back as the numbers. Where the shortest digits are followed by an
exponent, they denote the same decimal as without one; that exponent is never so large that it
would not be read, since rounding keeps the highest bit of what is rounded.
-/

namespace JsonQuery

/-! ### The size of what is rounded -/

lemma div_le_roundDiv (num den : Nat) : num / den ≤ roundDiv num den := by
  rw [roundDiv]
  split_ifs <;> omega

/-- Rounding keeps the highest bit of the quotient. -/
lemma two_pow_log2_le_roundUnits {num den : Nat} (h : num / den ≠ 0) :
    2 ^ (num / den).log2 ≤ roundUnits num den := by
  rw [roundUnits]
  generalize hk : (num / den).log2 = k
  have hbit : 2 ^ k ≤ num / den := hk ▸ Nat.log2_self_le h
  have hsplit : 2 ^ k = 2 ^ (k - (k - 52)) * 2 ^ (k - 52) := by
    rw [← Nat.pow_add]
    congr 1
    omega
  rw [Nat.pow_eq]
  calc 2 ^ k = 2 ^ (k - (k - 52)) * 2 ^ (k - 52) := hsplit
    _ ≤ num / den / 2 ^ (k - 52) * 2 ^ (k - 52) := by
      refine Nat.mul_le_mul_right _ ((Nat.le_div_iff_mul_le (Nat.two_pow_pos _)).2 ?_)
      rw [← hsplit]
      exact hbit
    _ = num / (den * 2 ^ (k - 52)) * 2 ^ (k - 52) := by rw [Nat.div_div_eq_div_mul]
    _ ≤ roundDiv num (den * 2 ^ (k - 52)) * 2 ^ (k - 52) :=
      Nat.mul_le_mul_right _ (div_le_roundDiv _ _)

lemma two_pow_le_div {value a k : Nat} (h : 10 ^ (a + k) ≤ value) :
    2 ^ (a + 3 * k) ≤ value / 5 ^ a := by
  rw [Nat.le_div_iff_mul_le (Nat.pow_pos (by decide))]
  calc 2 ^ (a + 3 * k) * 5 ^ a = (2 * 5) ^ a * (2 ^ 3) ^ k := by
        rw [Nat.pow_add, Nat.pow_mul, Nat.mul_pow, Nat.mul_right_comm]
    _ ≤ 10 ^ a * 10 ^ k := Nat.mul_le_mul_left _ (Nat.pow_le_pow_left (by decide) k)
    _ = 10 ^ (a + k) := (Nat.pow_add ..).symm
    _ ≤ value := h

lemma unitBound_le_two_pow {n : Nat} (h : 2098 ≤ n) : unitBound ≤ 2 ^ n := by
  unfold unitBound
  generalize 2098 = m at h ⊢
  exact Nat.pow_le_pow_right (by decide) h

/-- A decimal of a double has no exponent beyond those that are read. -/
lemma Decimal.exponent_le {d : Decimal} (hd : d.digits ≠ 0)
    (hround : roundUnits d.scaled fives < unitBound) : d.exponent ≤ 400 := by
  by_contra hlarge
  obtain ⟨a, ha, hfives⟩ : ∃ a, a = 1074 ∧ fives = 5 ^ a := by
    unfold fives
    generalize 1074 = n
    exact ⟨n, rfl, Nat.pow_eq⟩
  have hscaled : 10 ^ (a + 401) ≤ d.scaled :=
    calc 10 ^ (a + 401) ≤ 10 ^ (d.exponent + 1074).toNat :=
          Nat.pow_le_pow_right (by decide) (by omega)
      _ ≤ d.scaled := Nat.le_mul_of_pos_left _ (Nat.pos_of_ne_zero hd)
  have hquotient := two_pow_le_div hscaled
  rw [← hfives] at hquotient
  have hne : d.scaled / fives ≠ 0 := fun hzero => by
    rw [hzero] at hquotient
    exact absurd hquotient (Nat.two_pow_pos _).not_ge
  have hlog := (Nat.le_log2 hne).2 hquotient
  have hbound := (unitBound_le_two_pow (by omega)).trans (two_pow_log2_le_roundUnits hne)
  exact absurd hround hbound.not_gt

/-! ### Exponents -/

/-- The mark of an exponent, and its digits with a sign. -/
def exponentChars (e : Int) : List Char := (if 0 ≤ e then ['e', '+'] else ['e']) ++ intChars e

open NumberToken in
lemma scanExponent_exponentChars (e : Int) :
    scanExponent (exponentChars e) = some (some (decide (e < 0), natChars e.natAbs), []) := by
  have hdigits : scanDigits (natChars e.natAbs) = some (natChars e.natAbs, []) := by
    have hspan : spanDigits (natChars e.natAbs) = (natChars e.natAbs, []) := by
      simpa using spanDigits_append (fun c hc => isDigit_of_mem_natChars hc) (avoids_nil _)
    simp [scanDigits, hspan, natChars_ne_nil]
  cases e with
  | ofNat n =>
    have hnonneg : (0 : Int) ≤ Int.ofNat n := Int.natCast_nonneg n
    rw [exponentChars, if_pos hnonneg]
    simp only [Int.natAbs_ofNat'] at hdigits
    simp [scanExponent, scanSign, intChars, hdigits]
  | negSucc n =>
    have hneg : ¬(0 : Int) ≤ Int.negSucc n := by omega
    rw [exponentChars, if_neg hneg]
    simp only [Int.natAbs_negSucc] at hdigits
    simp [scanExponent, scanSign, intChars, hdigits, Int.negSucc_lt_zero]

lemma avoids_exponentChars (e : Int) :
    Avoids (fun c => c == '.' || c.isDigit) (exponentChars e) := by
  rw [exponentChars]
  split_ifs
  · exact avoids_cons rfl
  · exact avoids_cons rfl

lemma NumberToken.isFixed_first {n : Nat} {first : Char} {rest : List Char}
    (h : natChars n = first :: rest) :
    IsFixed [first] (if rest = [] then none else some rest) := by
  have hdigit : ∀ c ∈ first :: rest, c.isDigit = true := by
    rw [← h]
    exact fun c hc => isDigit_of_mem_natChars hc
  refine ⟨?_, fun c hc => ?_, ?_, ?_⟩
  · by_cases hzero : first = '0'
    · rw [hzero]
      decide
    · exact isWhole_of_head (List.cons_ne_nil _ _) (by simpa using hzero)
  · exact hdigit c (List.mem_cons.2 (.inl (List.mem_singleton.1 hc)))
  · split_ifs with hrest
    · simp
    · simpa using hrest
  · split_ifs
    · simp
    · rintro ds ⟨⟩ c hc
      exact hdigit c (List.mem_cons_of_mem _ hc)

open NumberToken in
/-- One digit stands before the point, and the exponent is that of this digit. -/
lemma Decimal.exists_scientific (d : Decimal) :
    ∃ whole fraction, IsFixed whole fraction ∧
      d.scientific = whole ++ (pointChars fraction ++ exponentChars d.magnitude) ∧
      natOfDigits (whole ++ fraction.getD []) = d.digits ∧
      d.magnitude - (fraction.getD []).length = d.exponent := by
  obtain ⟨first, rest, hdigits⟩ := List.exists_cons_of_ne_nil (natChars_ne_nil d.digits)
  have hvalue := natOfDigits_natChars d.digits
  rw [hdigits] at hvalue
  refine ⟨_, _, isFixed_first hdigits, ?_, ?_, ?_⟩
  · rw [scientific]
    cases rest with
    | nil => simp [hdigits, pointChars, exponentChars, magnitude]
    | cons second rest => simp [hdigits, pointChars, exponentChars, magnitude]
  · cases rest with
    | nil => simpa using hvalue
    | cons second rest => simpa using hvalue
  · rw [magnitude, hdigits]
    cases rest with
    | nil => simp
    | cons second rest => simp

/-- Digits with an exponent denote the decimal. -/
lemma NumberToken.decimal_scientific {d : Decimal} (negative : Bool) {whole : List Char}
    {fraction : Option (List Char)} (hdigits : natOfDigits (whole ++ fraction.getD []) = d.digits)
    (hexponent : d.magnitude - (fraction.getD []).length = d.exponent) :
    (⟨negative, whole, fraction, some (decide (d.magnitude < 0), natChars d.magnitude.natAbs)⟩ :
      NumberToken).decimal = d := by
  rw [decimal]
  by_cases hneg : d.magnitude < 0
  · simp only [hdigits, hneg, decide_true, natOfDigits_natChars]
    rw [Int.ofNat_natAbs_of_nonpos hneg.le, Int.neg_neg, hexponent]
  · simp only [hdigits, hneg, decide_false, natOfDigits_natChars]
    rw [Int.natAbs_of_nonneg (not_lt.1 hneg), hexponent]

/-! ### The layouts of JSON -/

namespace Double

variable {x : Double}

lemma isNumber_scientific (tie : Tie) (hx : (x.shortest tie).digits ≠ 0) :
    Grammar.IsNumber (x.signChars ++ (x.shortest tie).scientific) x := by
  obtain ⟨whole, fraction, hfixed, htext, hdigits, hmagnitude⟩ :=
    (x.shortest tie).exists_scientific
  obtain ⟨hround, hlow⟩ := roundUnits_shortest tie x
  have hhigh : (x.shortest tie).exponent ≤ 400 :=
    Decimal.exponent_le hx (by rw [hround]; exact x.representable.1)
  have hscan := NumberToken.scan?_fixed x.negative hfixed
    (avoids_exponentChars (x.shortest tie).magnitude) (scanExponent_exponentChars _)
  rw [Grammar.IsNumber, Token.number?_plain, signChars, htext, hscan, Option.bind_some,
    NumberToken.double?, NumberToken.decimal_scientific x.negative hdigits hmagnitude,
    Decimal.toDouble?_eq_ofScaled? x.negative hlow hhigh, ofScaled?_eq hround]
  rfl

/-- Whole digits may be followed by a point and a zero. -/
lemma isNumber_pointZero (tie : Tie) (h : 0 ≤ (x.shortest tie).exponent) :
    Grammar.IsNumber (x.signChars ++ (x.shortest tie).plain ++ ['.', '0']) x := by
  generalize hd : x.shortest tie = d at h
  have hround : roundUnits d.scaled fives = x.units := hd ▸ (roundUnits_shortest tie x).1
  have hzero : d.digits = 0 → d.exponent.toNat = 0 := fun hdigits => by
    rw [← hd, shortest_of_digits_eq_zero (hd ▸ hdigits)]
    rfl
  have hwhole := NumberToken.isFixed_zeros hzero
  have hfixed : NumberToken.IsFixed (natChars d.digits ++ List.replicate d.exponent.toNat '0')
      (some ['0']) :=
    ⟨hwhole.isWhole, hwhole.whole, by simp, by simp⟩
  have hsame : (⟨d.digits * 10 ^ (d.exponent.toNat + 1), -1⟩ : Decimal).scaled = d.scaled := by
    simp only [Decimal.scaled]
    rw [Nat.mul_assoc, ← Nat.pow_add]
    congr 2
    omega
  have hnumber := isNumber_fixed (x := x) (d := ⟨d.digits * 10 ^ (d.exponent.toNat + 1), -1⟩)
    hfixed (by dsimp only; omega) ?_ rfl (by rw [hsame, hround])
  · simpa [Decimal.plain, h, NumberToken.pointChars] using hnumber
  · rw [Option.getD_some, List.append_assoc, ← List.replicate_succ', natOfDigits_append_zeros,
      natOfDigits_natChars]
    exact (Nat.mul_one _).symm

/-- **The JSON text of a double is read as the double.** -/
theorem isNumber_jsonChars (x : Double) : Grammar.IsNumber x.jsonChars x := by
  unfold jsonChars
  dsimp only
  split_ifs with hzero hplain hwhole
  · have hshortest := shortest_of_digits_eq_zero hzero
    have hnumber := isNumber_pointZero (x := x) .even (by rw [hshortest])
    rw [hshortest] at hnumber
    simpa [Decimal.plain, natChars] using hnumber
  · exact isNumber_pointZero .even hwhole
  · rw [List.append_nil]
    exact isNumber_plain .even x
  · exact isNumber_scientific .even hzero

/-! ### Integers -/

lemma units_of_toInt? {n : Int} (h : x.toInt? = some n) :
    x.units = n.natAbs * unitsOfOne ∧ n.natAbs ≤ maxSafe := by
  simp only [toInt?] at h
  split_ifs at h with hwhole hneg
  all_goals
    cases h
    obtain ⟨hmod, hsafe⟩ := hwhole
    simp only [Int.natAbs_neg, Int.natAbs_natCast]
    exact ⟨(Nat.div_mul_cancel (Nat.dvd_of_mod_eq_zero hmod)).symm, hsafe⟩

lemma toInt?_of_units {n : Int} (hunits : x.units = n.natAbs * unitsOfOne)
    (hsafe : n.natAbs ≤ maxSafe) (hsign : x.negative = decide (n < 0)) : x.toInt? = some n := by
  have hdiv : x.units / unitsOfOne = n.natAbs := by
    rw [hunits, Nat.mul_div_cancel _ unitsOfOne_pos]
  have hmod : x.units % unitsOfOne = 0 := by rw [hunits, Nat.mul_mod_left]
  simp only [toInt?, hdiv, hmod, hsafe, hsign, and_self, if_true, Option.some.injEq]
  by_cases hneg : n < 0
  · simp only [hneg, decide_true, if_true]
    omega
  · simp only [hneg, decide_false, Bool.false_eq_true, if_false]
    omega

/-- An integer that a double stands for is read as a double that stands for it; this may be
another one, since the sign of a zero is not written. -/
lemma exists_isNumber_intChars {n : Int} (h : x.toInt? = some n) :
    ∃ y, Grammar.IsNumber (intChars n) y ∧ y.toInt? = some n := by
  obtain ⟨hunits, hsafe⟩ := units_of_toInt? h
  refine ⟨⟨decide (n < 0), x.units, x.representable⟩, ?_, toInt?_of_units hunits hsafe rfl⟩
  have hscaled : (⟨n.natAbs, 0⟩ : Decimal).scaled = x.units * fives := by
    rw [hunits, Nat.mul_assoc, unitsOfOne_mul_fives]
    rfl
  have hfixed := NumberToken.isFixed_zeros (n := n.natAbs) (k := 0) fun _ => rfl
  rw [List.replicate_zero, List.append_nil] at hfixed
  have hnumber := isNumber_fixed (x := ⟨decide (n < 0), x.units, x.representable⟩)
    (d := ⟨n.natAbs, 0⟩) hfixed (by dsimp only; omega)
    (by rw [Option.getD_none, List.append_nil, natOfDigits_natChars]; exact (Nat.mul_one _).symm)
    rfl (by rw [hscaled, roundUnits_units])
  rw [intChars_eq]
  simpa [signChars, NumberToken.pointChars] using hnumber

end Double

/-! ### Literals -/

/-- **The JSON text of a literal** is a literal of the same value. -/
lemma exists_isPrimary_json {l : Literal} (h : l.WellFormed) :
    ∃ l' : Literal, Grammar.IsPrimary l.json.chars (.literal l') ∧ l'.json = l.json := by
  cases l with
  | null => exact ⟨.null, .wordNull, rfl⟩
  | bool b =>
    cases b with
    | true => exact ⟨.bool true, .wordTrue, rfl⟩
    | false => exact ⟨.bool false, .wordFalse, rfl⟩
  | string s => exact ⟨.string s, .string (StringLiteral.isString_jsonQuoted s), rfl⟩
  | number x =>
    cases x with
    | finite x =>
      cases hx : x.toInt? with
      | some n =>
        obtain ⟨y, hnumber, hy⟩ := Double.exists_isNumber_intChars hx
        refine ⟨.number (.finite y), ?_, by simp only [Literal.json, hx, hy]⟩
        simp only [Literal.json, hx]
        exact .number hnumber
      | none =>
        refine ⟨.number (.finite x), ?_, rfl⟩
        simp only [Literal.json, hx]
        exact .number x.isNumber_jsonChars
    | _ => cases h

end JsonQuery
