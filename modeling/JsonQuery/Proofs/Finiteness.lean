import JsonQuery.Proofs.JsonNumbers

/-!
Which decimals have a double. Rounding goes to the nearest number of 53 significant bits, so what
is below the middle between the largest double and the power of two above it is read as a double.
From that middle on nothing is: there rounding gives the power of two, which is not a double.
-/

namespace JsonQuery

/-! ### Rounding -/

section Rounding

variable {num den m : Nat}

lemma roundDiv_le (hden : 0 < den) (h : num ≤ m * den) : roundDiv num den ≤ m := by
  have hsplit := Nat.div_add_mod num den
  rw [roundDiv]
  rcases Nat.lt_or_ge (num / den) m with hlt | hge
  · split_ifs <;> omega
  · have hle : m * den ≤ den * (num / den) := by
      rw [Nat.mul_comm]
      exact Nat.mul_le_mul_left den hge
    have hq : num / den ≤ m := Nat.div_le_of_le_mul (by rwa [Nat.mul_comm])
    rw [if_pos (by omega)]
    exact hq

/-- What rounds to less than an even number is below the middle between it and the number before;
in the middle itself, rounding goes to the even one. -/
lemma roundDiv_lt_iff (hden : 0 < den) (m : Nat) :
    roundDiv num den < 2 * m ↔ 2 * num + den < 4 * (m * den) := by
  have hsplit := Nat.div_add_mod' num den
  have hmod := Nat.mod_lt num hden
  rw [roundDiv]
  generalize num / den = q at *
  generalize num % den = r at *
  rcases Nat.lt_trichotomy (q + 1) (2 * m) with hlt | heq | hgt
  · have hle : (q + 2) * den ≤ 2 * m * den := Nat.mul_le_mul_right den (by omega)
    rw [Nat.add_mul, Nat.mul_assoc 2] at hle
    split_ifs <;> omega
  · have heq' : (q + 1) * den = 2 * m * den := by rw [heq]
    rw [Nat.add_mul, Nat.mul_assoc 2] at heq'
    split_ifs <;> omega
  · have hge : 2 * m * den ≤ q * den := Nat.mul_le_mul_right den (by omega)
    rw [Nat.mul_assoc 2] at hge
    split_ifs <;> omega

/-- Rounding does not go beyond a power of two. -/
lemma roundUnits_le_two_pow (hden : 0 < den) {j : Nat} (h : num < 2 ^ j * den) :
    roundUnits num den ≤ 2 ^ j := by
  have hquotient : num / den < 2 ^ j := (Nat.div_lt_iff_lt_mul hden).2 h
  have hlog : (num / den).log2 ≤ j := by
    by_cases hzero : num / den = 0
    · rw [hzero]
      exact Nat.zero_le j
    · exact ((Nat.log2_lt hzero).2 hquotient).le
  rw [roundUnits]
  generalize hk : (num / den).log2 - 52 = k
  have hsplit : 2 ^ j = 2 ^ (j - k) * 2 ^ k := by
    rw [← Nat.pow_add]
    congr 1
    omega
  rw [Nat.pow_eq, hsplit]
  refine Nat.mul_le_mul_right _ (roundDiv_le (Nat.mul_pos hden (Nat.two_pow_pos k)) ?_)
  calc num ≤ 2 ^ j * den := h.le
    _ = 2 ^ (j - k) * (den * 2 ^ k) := by rw [hsplit, Nat.mul_assoc, Nat.mul_comm den]

/-- The quotient has no more than 53 bits before the shift of its rounding. -/
lemma lt_two_pow_shift (num : Nat) (hden : 0 < den) :
    num < 2 ^ ((num / den).log2 - 52 + 53) * den := by
  rw [← Nat.div_lt_iff_lt_mul hden]
  calc num / den < 2 ^ ((num / den).log2 + 1) := Nat.lt_log2_self
    _ ≤ 2 ^ ((num / den).log2 - 52 + 53) := Nat.pow_le_pow_right (by decide) (by omega)

/-- What has been rounded ends with as many zero bits as a double does. -/
lemma two_pow_dvd_roundUnits (hden : 0 < den) :
    2 ^ ((roundUnits num den).log2 - 52) ∣ roundUnits num den := by
  have hle := roundUnits_le_two_pow hden (lt_two_pow_shift num hden)
  generalize hk : (num / den).log2 - 52 = k at hle
  rcases hle.eq_or_lt with heq | hlt
  · rw [heq, Nat.log2_two_pow]
    exact Nat.pow_dvd_pow 2 (by omega)
  · have hshift : (roundUnits num den).log2 - 52 ≤ k := by
      by_cases hzero : roundUnits num den = 0
      · rw [hzero]
        exact Nat.zero_le k
      · have := (Nat.log2_lt hzero).2 hlt
        omega
    have hdvd : 2 ^ k ∣ roundUnits num den := by
      rw [roundUnits, hk]
      exact Nat.dvd_mul_left ..
    exact (Nat.pow_dvd_pow 2 hshift).trans hdvd

/-- **Rounding below a power of two.** The middle between a power of two and the number of 53
significant bits before it is the first to be rounded up to the power of two. -/
theorem roundUnits_lt_iff (hden : 0 < den) (j : Nat) :
    roundUnits num den < 2 ^ (j + 54) ↔ num < (2 ^ 54 - 1) * 2 ^ j * den := by
  have hpow : 2 ^ (j + 54) = 2 ^ 54 * 2 ^ j := by rw [Nat.add_comm, Nat.pow_add]
  have hpos : 0 < 2 ^ j * den := Nat.mul_pos (Nat.two_pow_pos j) hden
  rw [Nat.mul_assoc, hpow]
  rcases Nat.lt_trichotomy (num / den).log2 (j + 53) with hlow | heq | hhigh
  · -- the quotient has fewer bits, so that both hold
    have hlt : num < 2 ^ (j + 53) * den := by
      rw [← Nat.div_lt_iff_lt_mul hden]
      exact Nat.lt_log2_self.trans_le (Nat.pow_le_pow_right (by decide) hlow)
    have hround := roundUnits_le_two_pow hden hlt
    have hhalf : 2 ^ (j + 53) = 2 ^ 53 * 2 ^ j := by rw [Nat.add_comm, Nat.pow_add]
    rw [hhalf] at hlt hround
    rw [Nat.mul_assoc] at hlt
    have := Nat.two_pow_pos j
    exact iff_of_true (by omega) (by omega)
  · -- the last bit that is kept is the middle's
    have hshift : (num / den).log2 - 52 = j + 1 := by omega
    have hgrid : den * 2 ^ (j + 1) = 2 * (2 ^ j * den) := by
      rw [Nat.pow_succ]
      ring
    have htop : 2 ^ 54 * 2 ^ j = 2 * 2 ^ 52 * 2 ^ (j + 1) := by
      rw [Nat.pow_succ]
      ring
    rw [roundUnits, hshift, Nat.pow_eq, htop, Nat.mul_lt_mul_right (Nat.two_pow_pos _),
      roundDiv_lt_iff (Nat.mul_pos hden (Nat.two_pow_pos _)), hgrid]
    omega
  · -- the quotient has more bits, which rounding keeps
    have hne : num / den ≠ 0 := by
      intro hzero
      rw [hzero] at hhigh
      exact absurd hhigh (Nat.not_lt_zero _)
    have hround := two_pow_log2_le_roundUnits hne
    have hbits : 2 ^ (j + 54) ≤ 2 ^ (num / den).log2 := Nat.pow_le_pow_right (by decide) hhigh
    have hquotient : 2 ^ (j + 54) * den ≤ num := by
      rw [← Nat.le_div_iff_mul_le hden]
      exact hbits.trans (Nat.log2_self_le hne)
    rw [hpow] at hbits hquotient
    rw [Nat.mul_assoc] at hquotient
    exact iff_of_false (by omega) (by omega)

end Rounding

/-! ### Decimals -/

/-- The middle between the largest double and the power of two above it. -/
def Double.ceiling : Nat := (Nat.pow 2 54 - 1) * Nat.pow 2 970

/-- Below that middle. -/
def Decimal.IsFinite (d : Decimal) : Prop :=
  d.digits * 10 ^ d.exponent.toNat < Double.ceiling * 10 ^ (-d.exponent).toNat

/-- The numbers of this module as powers of two, which are too large to compute with. -/
lemma Double.exists_ceiling : ∃ a b, Double.ceiling = (2 ^ 54 - 1) * 2 ^ a ∧
    unitsOfOne = 2 ^ b ∧ unitBound = 2 ^ (a + b + 54) ∧ a + 54 = 1024 := by
  refine ⟨970, 1074, ?_, ?_, ?_, rfl⟩
  · unfold ceiling
    generalize 970 = n
    rfl
  · unfold unitsOfOne
    generalize 1074 = n
    rfl
  · have hbound : ∀ n, n = 2098 → unitBound = 2 ^ n := by
      intro n hn
      unfold unitBound
      rw [← hn]
      rfl
    exact hbound _ rfl

/-- A quotient has a nearest double if it is below that middle. -/
lemma Double.isSome_ofRatio?_iff (negative : Bool) {num den : Nat} (hden : 0 < den) :
    (Double.ofRatio? negative num den).isSome ↔ num < Double.ceiling * den := by
  obtain ⟨a, b, hceiling, hone, hbound, -⟩ := Double.exists_ceiling
  have hscale : (2 ^ 54 - 1) * 2 ^ (a + b) * den = (2 ^ 54 - 1) * 2 ^ a * den * 2 ^ b := by
    rw [Nat.pow_add]
    ring
  have hround : roundUnits (num * unitsOfOne) den < unitBound ↔ num < Double.ceiling * den := by
    rw [hone, hbound, hceiling, roundUnits_lt_iff hden, hscale,
      Nat.mul_lt_mul_right (Nat.two_pow_pos b)]
  rw [ofRatio?, ← hround]
  split_ifs with h
  · exact iff_of_true rfl h.1
  · exact iff_of_false Bool.false_ne_true fun hlt => h ⟨hlt, two_pow_dvd_roundUnits hden⟩

lemma Double.ceiling_pos : 0 < Double.ceiling := by
  obtain ⟨a, b, hceiling, -⟩ := Double.exists_ceiling
  rw [hceiling]
  exact Nat.mul_pos (by decide) (Nat.two_pow_pos a)

lemma Double.ceiling_le {n : Nat} (h : 342 ≤ n) : Double.ceiling ≤ 10 ^ n := by
  obtain ⟨a, b, hceiling, -, -, ha⟩ := Double.exists_ceiling
  calc Double.ceiling ≤ 2 ^ 54 * 2 ^ a := by
        rw [hceiling]
        exact Nat.mul_le_mul_right _ (by decide)
    _ = 2 ^ (54 + a) := (Nat.pow_add ..).symm
    _ ≤ 2 ^ (3 * n) := Nat.pow_le_pow_right (by decide) (by omega)
    _ = 8 ^ n := by rw [Nat.pow_mul]
    _ ≤ 10 ^ n := Nat.pow_le_pow_left (by decide) n

/-- **Finite decimals.** A decimal has a nearest double if and only if it is below the middle
between the largest double and the power of two above it. -/
theorem Decimal.isSome_toDouble?_iff (d : Decimal) (negative : Bool) :
    (d.toDouble? negative).isSome ↔ d.IsFinite := by
  rw [toDouble?, IsFinite]
  split_ifs with hzero hlarge hsmall hwhole
  · rw [hzero, Nat.zero_mul]
    exact iff_of_true rfl (Nat.mul_pos Double.ceiling_pos (Nat.pow_pos (by decide)))
  · -- beyond every double
    have hexponent : (-d.exponent).toNat = 0 := by omega
    rw [hexponent, Nat.pow_zero, Nat.mul_one]
    refine iff_of_false Bool.false_ne_true (Nat.not_lt.2 ?_)
    calc Double.ceiling ≤ 10 ^ d.exponent.toNat := Double.ceiling_le (by omega)
      _ ≤ d.digits * 10 ^ d.exponent.toNat := Nat.le_mul_of_pos_left _ (Nat.pos_of_ne_zero hzero)
  · -- so small that zero is nearest
    have hexponent : d.exponent.toNat = 0 := by omega
    rw [hexponent, Nat.pow_zero, Nat.mul_one]
    refine iff_of_true rfl ?_
    calc d.digits < 2 ^ (d.digits.log2 + 1) := Nat.lt_log2_self
      _ ≤ 10 ^ (d.digits.log2 + 1) := Nat.pow_le_pow_left (by decide) _
      _ ≤ 10 ^ (-d.exponent).toNat := Nat.pow_le_pow_right (by decide) (by omega)
      _ ≤ Double.ceiling * 10 ^ (-d.exponent).toNat :=
        Nat.le_mul_of_pos_left _ Double.ceiling_pos
  · have hexponent : (-d.exponent).toNat = 0 := by omega
    rw [Nat.pow_eq, Double.isSome_ofRatio?_iff negative Nat.one_pos, hexponent, Nat.pow_zero]
  · have hexponent : d.exponent.toNat = 0 := by omega
    rw [Nat.pow_eq, Double.isSome_ofRatio?_iff negative (Nat.pow_pos (by decide)), hexponent,
      Nat.pow_zero, Nat.mul_one]
end JsonQuery
