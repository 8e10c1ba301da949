import JsonQuery.Proofs.Tokens
import Mathlib.Algebra.GroupWithZero.Nat
import Mathlib.Data.List.Basic

/-!
Numbers as they are written. The digits of a natural number denote it and begin with zero only
for zero, so integers and decimals in plain digits are tokens, and the tokens say what was
written.
-/

namespace JsonQuery

/-! ### Natural numbers -/

lemma natOfDigits_eq (ds : List Char) : natOfDigits ds = Nat.ofDigitChars 10 ds 0 :=
  Nat.ofDigitChars_eq_foldl.symm

@[simp] lemma natOfDigits_natChars (n : Nat) : natOfDigits (natChars n) = n := by
  rw [natOfDigits_eq, natChars, Nat.ofDigitChars_ten_toDigits]

lemma natChars_ne_nil (n : Nat) : natChars n ≠ [] := Nat.toDigits_ne_nil

lemma isDigit_of_mem_natChars {n : Nat} {c : Char} (hc : c ∈ natChars n) : c.isDigit = true :=
  Nat.isDigit_of_mem_toDigits (by decide) (by decide) hc

/-- The first digit of a number is its last one, or the first one of a tenth of it. -/
lemma head?_natChars_ne {n : Nat} (hn : n ≠ 0) : (natChars n).head? ≠ some '0' := by
  induction n using Nat.strongRecOn with
  | _ n ih =>
    rw [natChars, Nat.toDigits_eq_if (by decide)]
    split_ifs with hlt
    · simpa using hn
    · have htenth : n / 10 ≠ 0 := by omega
      rw [List.head?_append_of_ne_nil _ Nat.toDigits_ne_nil]
      exact ih (n / 10) (by omega) htenth

lemma natOfDigits_append_zeros (ds : List Char) (k : Nat) :
    natOfDigits (ds ++ List.replicate k '0') = natOfDigits ds * 10 ^ k := by
  rw [natOfDigits_eq, natOfDigits_eq, Nat.ofDigitChars_append, Nat.ofDigitChars_replicate_zero,
    Nat.mul_comm]

lemma natOfDigits_zeros_append (k : Nat) (ds : List Char) :
    natOfDigits (List.replicate k '0' ++ ds) = natOfDigits ds := by
  rw [natOfDigits_eq, natOfDigits_eq, Nat.ofDigitChars_append, Nat.ofDigitChars_replicate_zero,
    Nat.mul_zero]

namespace NumberToken

lemma isWhole_of_head {ds : List Char} (hne : ds ≠ []) (h : ds.head? ≠ some '0') :
    isWhole ds = true := by
  simp [isWhole, hne, h]

lemma isWhole_natChars (n : Nat) : isWhole (natChars n) = true := by
  rcases Nat.eq_zero_or_pos n with rfl | hn
  · decide
  · exact isWhole_of_head (natChars_ne_nil n) (head?_natChars_ne (by omega))

lemma scanWhole_append {ds t : List Char} (hd : ∀ c ∈ ds, c.isDigit = true)
    (hds : isWhole ds = true) (ht : Avoids Char.isDigit t) :
    scanWhole (ds ++ t) = some (ds, t) := by
  rw [scanWhole, spanDigits_append hd ht, if_pos hds]

/-- A sign, which no digit is taken for. -/
lemma scanMinus_append (negative : Bool) {ds : List Char} (t : List Char)
    (hd : ∀ c ∈ ds, c.isDigit = true) (hne : ds ≠ []) :
    scanMinus ((if negative then ['-'] else []) ++ (ds ++ t)) = (negative, ds ++ t) := by
  cases negative with
  | true => rfl
  | false =>
    cases ds with
    | nil => exact absurd rfl hne
    | cons c ds =>
      have hc : c ≠ '-' := by
        rintro rfl
        exact absurd (hd '-' List.mem_cons_self) (by decide)
      simp [scanMinus, hc]

/-! ### Digits with a point -/

/-- A whole part and perhaps digits after a point. -/
structure IsFixed (whole : List Char) (fraction : Option (List Char)) : Prop where
  isWhole : isWhole whole = true
  whole : ∀ c ∈ whole, c.isDigit = true
  ne_nil : ∀ ds ∈ fraction, ds ≠ []
  fraction : ∀ ds ∈ fraction, ∀ c ∈ ds, c.isDigit = true

/-- The point and the digits after it. -/
def pointChars (fraction : Option (List Char)) : List Char := fraction.elim [] ('.' :: ·)

lemma scanFraction_pointChars {whole : List Char} {fraction : Option (List Char)}
    (h : IsFixed whole fraction) : scanFraction (pointChars fraction) = some (fraction, []) := by
  cases fraction with
  | none => rfl
  | some ds =>
    have hspan : spanDigits ds = (ds, []) := by
      simpa using spanDigits_append (h.fraction ds rfl) (avoids_nil _)
    simp [pointChars, scanFraction, scanDigits, hspan, h.ne_nil ds rfl]

lemma avoids_pointChars_append (fraction : Option (List Char)) {t : List Char}
    (ht : Avoids Char.isDigit t) : Avoids Char.isDigit (pointChars fraction ++ t) := by
  cases fraction with
  | none => exact ht
  | some ds => exact avoids_cons rfl

/-- The digits of a number, with or without an exponent after them. -/
lemma scan?_fixed (negative : Bool) {whole t : List Char} {fraction : Option (List Char)}
    {exponent : Option (Bool × List Char)} (h : IsFixed whole fraction)
    (ht : Avoids (fun c => c == '.' || c.isDigit) t)
    (hexponent : scanExponent t = some (exponent, [])) :
    scan? ((if negative then ['-'] else []) ++ (whole ++ (pointChars fraction ++ t))) =
      some (⟨negative, whole, fraction, exponent⟩, []) := by
  have hne : whole ≠ [] := by
    rintro rfl
    exact absurd h.isWhole (by decide)
  have hdigit : Avoids Char.isDigit t := ht.mono fun c hc => by simp [hc]
  rw [scan?, scanMinus_append negative _ h.whole hne]
  simp only [Option.bind_eq_bind, Option.pure_def,
    scanWhole_append h.whole h.isWhole (avoids_pointChars_append fraction hdigit),
    Option.bind_some, cuts_scanFraction.append (scanFraction_pointChars h) ht, hexponent]

/-! The three layouts of the digits of a number: zeros after them, a point among them, or a
point and zeros before them. -/

lemma isDigit_of_mem_zeros {k : Nat} {c : Char} (hc : c ∈ List.replicate k '0') :
    c.isDigit = true := by
  rw [List.eq_of_mem_replicate hc]
  decide

lemma isFixed_zeros {n k : Nat} (h : n = 0 → k = 0) :
    IsFixed (natChars n ++ List.replicate k '0') none := by
  refine ⟨?_, fun c hc => ?_, by simp, by simp⟩
  · by_cases hn : n = 0
    · rw [h hn, List.replicate_zero, List.append_nil]
      exact isWhole_natChars n
    · refine isWhole_of_head (by simp [natChars_ne_nil]) ?_
      rw [List.head?_append_of_ne_nil _ (natChars_ne_nil n)]
      exact head?_natChars_ne hn
  · rcases List.mem_append.1 hc with hc | hc
    · exact isDigit_of_mem_natChars hc
    · exact isDigit_of_mem_zeros hc

lemma isFixed_split {n k : Nat} (hk : 0 < k) (hlen : k < (natChars n).length) :
    IsFixed ((natChars n).take k) (some ((natChars n).drop k)) := by
  have htake : (natChars n).take k ≠ [] := by
    rw [← List.length_pos_iff, List.length_take]
    omega
  have hn : n ≠ 0 := by
    rintro rfl
    have : (natChars 0).length = 1 := by decide
    omega
  refine ⟨isWhole_of_head htake fun hhead => head?_natChars_ne hn ?_, ?_, ?_, ?_⟩
  · rw [← List.take_append_drop k (natChars n), List.head?_append_of_ne_nil _ htake, hhead]
  · exact fun c hc => isDigit_of_mem_natChars (List.mem_of_mem_take hc)
  · rintro ds ⟨⟩
    rw [← List.length_pos_iff, List.length_drop]
    omega
  · rintro ds ⟨⟩ c hc
    exact isDigit_of_mem_natChars (List.mem_of_mem_drop hc)

lemma isFixed_below (n k : Nat) : IsFixed ['0'] (some (List.replicate k '0' ++ natChars n)) := by
  refine ⟨by decide, by simp, ?_, ?_⟩
  · rintro ds ⟨⟩
    simp [natChars_ne_nil]
  · rintro ds ⟨⟩ c hc
    rcases List.mem_append.1 hc with hc | hc
    · exact isDigit_of_mem_zeros hc
    · exact isDigit_of_mem_natChars hc

end NumberToken

open NumberToken in
/-- Plain digits are the digits of the decimal, with the zeros that its exponent asks for. -/
lemma Decimal.exists_fixed (d : Decimal) (hd : d.digits = 0 → d.exponent ≤ 0) :
    ∃ whole fraction, IsFixed whole fraction ∧ d.plain = whole ++ pointChars fraction ∧
      natOfDigits (whole ++ fraction.getD []) = d.digits * 10 ^ d.exponent.toNat ∧
      (fraction.getD []).length = (-d.exponent).toNat := by
  unfold plain
  dsimp only
  split_ifs with hwhole hplaces
  · -- zeros after the digits
    have hzeros : d.digits = 0 → d.exponent.toNat = 0 := fun hzero => by
      have := hd hzero
      omega
    refine ⟨_, none, isFixed_zeros hzeros, by simp [pointChars], ?_, ?_⟩
    · simp [natOfDigits_append_zeros]
    · simp
      omega
  · -- a point among the digits
    have hexponent : d.exponent.toNat = 0 := by omega
    refine ⟨_, _, isFixed_split (by omega) (by omega), rfl, ?_, ?_⟩
    · rw [Option.getD_some, List.take_append_drop, natOfDigits_natChars, hexponent, Nat.pow_zero,
        Nat.mul_one]
    · rw [Option.getD_some, List.length_drop]
      omega
  · -- zeros before the digits
    have hexponent : d.exponent.toNat = 0 := by omega
    refine ⟨_, _, isFixed_below _ _, rfl, ?_, ?_⟩
    · rw [Option.getD_some, hexponent, Nat.pow_zero, Nat.mul_one, ← List.append_assoc]
      change natOfDigits (List.replicate (_ + 1) '0' ++ _) = _
      rw [natOfDigits_zeros_append, natOfDigits_natChars]
    · rw [Option.getD_some, List.length_append, List.length_replicate]
      omega

/-! ### Integers -/

lemma intChars_eq (n : Int) :
    intChars n = (if decide (n < 0) then ['-'] else []) ++ natChars n.natAbs := by
  cases n with
  | ofNat n => simp [intChars]
  | negSucc n => simp [intChars, Int.negSucc_lt_zero]

lemma scanMinus_intChars (n : Int) :
    NumberToken.scanMinus (intChars n) = (decide (n < 0), natChars n.natAbs) := by
  have hminus := NumberToken.scanMinus_append (decide (n < 0)) []
    (fun c hc => isDigit_of_mem_natChars hc) (natChars_ne_nil n.natAbs)
  rwa [List.append_nil, ← intChars_eq] at hminus

lemma intValue?_natAbs {n : Int} (hn : n.natAbs ≤ Double.maxSafe) :
    Token.intValue? (decide (n < 0)) (natChars n.natAbs) = some n := by
  simp only [Token.intValue?, natOfDigits_natChars]
  by_cases hneg : n < 0
  · have hvalue : -(n.natAbs : Int) = n := by omega
    have hzero : n.natAbs ≠ 0 := by omega
    rw [if_pos ⟨hn, fun h => hzero h.2⟩]
    simp only [hneg, decide_true, if_true, hvalue]
  · have hvalue : (n.natAbs : Int) = n := by omega
    rw [if_pos ⟨hn, fun h => hneg (of_decide_eq_true h.1)⟩]
    simp only [hneg, decide_false, Bool.false_eq_true, if_false, hvalue]

/-- An integer of safe magnitude is read back. -/
theorem isInt_intChars {n : Int} (hn : n.natAbs ≤ Double.maxSafe) :
    Grammar.IsInt (intChars n) n := by
  have hwhole := NumberToken.scanWhole_append (t := [])
    (fun c hc => isDigit_of_mem_natChars hc) (NumberToken.isWhole_natChars n.natAbs)
    (avoids_nil _)
  rw [List.append_nil] at hwhole
  rw [Grammar.IsInt, Token.int?_plain, scanMinus_intChars]
  simp only [hwhole, Option.bind_some, intValue?_natAbs hn, Option.map_some]

/-- Only integers of safe magnitude are read. -/
theorem natAbs_le_of_isInt {w : List Char} {n : Int} (h : Grammar.IsInt w n) :
    n.natAbs ≤ Double.maxSafe := by
  rw [Grammar.IsInt, Token.int?_plain] at h
  obtain ⟨⟨ds, r⟩, -, h⟩ := Option.bind_eq_some_iff.1 h
  obtain ⟨m, hm, heq⟩ := Option.map_eq_some_iff.1 h
  obtain rfl := (Prod.mk.inj heq).1
  rw [Token.intValue?] at hm
  split_ifs at hm with hsafe hneg
  · obtain rfl := Option.some.inj hm
    rw [Int.natAbs_neg, Int.natAbs_natCast]
    exact hsafe.1
  · obtain rfl := Option.some.inj hm
    rw [Int.natAbs_natCast]
    exact hsafe.1

end JsonQuery
