import JsonQuery.Proofs.Digits
import JsonQuery.Proofs.WellFormed
import Mathlib.Data.List.Induction

/-!
Integers and numbers as texts, said without a reader. An integer has one text. A number is made
of parts, of which a fraction and an exponent may be missing, but only where the text does not go
on with a point or with the mark of an exponent. The readers of tokens take such texts, as far as
they go, and nothing else.
-/

namespace JsonQuery

/-! ### Digits -/

/-- Digits, at least one. -/
structure IsDigits (ds : List Char) : Prop where
  ne_nil : ds ≠ []
  isDigit : ∀ c ∈ ds, c.isDigit = true

section Digits

variable {ds : List Char} {c : Char}

/-- A digit is known by its distance from zero. -/
lemma digitChar_of_isDigit (hc : c.isDigit = true) :
    c.toNat - '0'.toNat < 10 ∧ Nat.digitChar (c.toNat - '0'.toNat) = c := by
  have hrange : 48 ≤ c.toNat ∧ c.toNat ≤ 57 := Char.isDigit_iff_toNat.1 hc
  have hall : ∀ i < 10, (Char.ofNat (48 + i)).toNat - '0'.toNat < 10 ∧
      Nat.digitChar ((Char.ofNat (48 + i)).toNat - '0'.toNat) = Char.ofNat (48 + i) := by decide
  obtain ⟨i, hi⟩ := Nat.exists_eq_add_of_le hrange.1
  have h := hall i (by omega)
  rwa [← hi, Char.ofNat_toNat] at h

lemma natOfDigits_append_singleton (ds : List Char) (c : Char) :
    natOfDigits (ds ++ [c]) = 10 * natOfDigits ds + (c.toNat - '0'.toNat) := by
  simp [natOfDigits]

lemma natOfDigits_pos (h : natChars (natOfDigits ds) = ds) (hhead : ds.head? ≠ some '0') :
    0 < natOfDigits ds := by
  refine Nat.pos_of_ne_zero fun hzero => hhead ?_
  rw [← h, hzero]
  rfl

/-- Digits that do not begin with zero are those of the number they denote. -/
lemma natChars_natOfDigits (hds : IsDigits ds) (hhead : ds.head? ≠ some '0') :
    natChars (natOfDigits ds) = ds := by
  obtain ⟨hne, hdigit⟩ := hds
  induction ds using List.reverseRecOn with
  | nil => exact absurd rfl hne
  | append_singleton ds c ih =>
    obtain ⟨hlt, hc⟩ := digitChar_of_isDigit (hdigit c (by simp))
    rw [natOfDigits_append_singleton, natChars]
    by_cases hnil : ds = []
    · subst hnil
      have hzero : natOfDigits [] = 0 := rfl
      rw [hzero, Nat.mul_zero, Nat.zero_add, Nat.toDigits_of_lt_base hlt, hc, List.nil_append]
    · rw [List.head?_append_of_ne_nil _ hnil] at hhead
      have hds := ih hhead hnil fun d hd => hdigit d (List.mem_append_left _ hd)
      rw [← Nat.toDigits_append_toDigits (by decide) (natOfDigits_pos hds hhead) hlt,
        Nat.toDigits_of_lt_base hlt, hc]
      exact congrArg (· ++ [c]) hds

lemma isDigits_natChars (n : Nat) : IsDigits (natChars n) :=
  ⟨natChars_ne_nil n, fun _ hc => isDigit_of_mem_natChars hc⟩

end Digits

/-! ### Integers -/

/-- The text of an integer: zero, or digits that do not begin with zero, behind a minus sign if
the integer is below zero. -/
inductive IsIntText : List Char → Int → Prop
  | zero : IsIntText ['0'] 0
  | positive {ds : List Char} (hds : IsDigits ds) (hhead : ds.head? ≠ some '0') :
    IsIntText ds (natOfDigits ds)
  | negative {ds : List Char} (hds : IsDigits ds) (hhead : ds.head? ≠ some '0') :
    IsIntText ('-' :: ds) (-natOfDigits ds)

lemma isIntText_intChars (n : Int) : IsIntText (intChars n) n := by
  cases n with
  | ofNat n =>
    rcases Nat.eq_zero_or_pos n with rfl | hn
    · exact .zero
    · have h := IsIntText.positive (isDigits_natChars n) (head?_natChars_ne (by omega))
      rwa [natOfDigits_natChars] at h
  | negSucc n =>
    have h := IsIntText.negative (isDigits_natChars (n + 1)) (head?_natChars_ne (by omega))
    rwa [natOfDigits_natChars] at h

/-- An integer has one text, that which it is written with. -/
theorem isIntText_iff {w : List Char} {n : Int} : IsIntText w n ↔ w = intChars n := by
  refine ⟨fun h => ?_, ?_⟩
  · cases h with
    | zero => rfl
    | positive hds hhead => exact (natChars_natOfDigits hds hhead).symm
    | negative hds hhead =>
      have hchars := natChars_natOfDigits hds hhead
      have hpos := natOfDigits_pos hchars hhead
      rw [intChars_eq, Int.natAbs_neg, Int.natAbs_natCast, hchars,
        if_pos (decide_eq_true (by omega))]
      rfl
  · rintro rfl
    exact isIntText_intChars n

/-! ### Parts of numbers -/

/-- A minus sign, unless the text begins with something else. -/
inductive MinusAt : List Char → Bool → List Char → Prop
  | absent {s : List Char} (h : Avoids (· == '-') s) : MinusAt s false s
  | present {s : List Char} : MinusAt ('-' :: s) true s

/-- Zero, or digits that do not begin with zero, which no further digit follows. -/
inductive WholeAt : List Char → List Char → List Char → Prop
  | zero {s : List Char} (h : Avoids Char.isDigit s) : WholeAt ('0' :: s) ['0'] s
  | digits {ds s : List Char} (hds : IsDigits ds) (hhead : ds.head? ≠ some '0')
    (h : Avoids Char.isDigit s) : WholeAt (ds ++ s) ds s

/-- A point and all digits behind it, at least one, unless the text does not begin with a
point. -/
inductive FractionAt : List Char → Option (List Char) → List Char → Prop
  | absent {s : List Char} (h : Avoids (· == '.') s) : FractionAt s none s
  | present {ds s : List Char} (hds : IsDigits ds) (h : Avoids Char.isDigit s) :
    FractionAt ('.' :: (ds ++ s)) (some ds) s

/-- The sign of an exponent, and whether it is a minus sign. -/
inductive IsSign : List Char → Bool → Prop
  | none : IsSign [] false
  | plus : IsSign ['+'] false
  | minus : IsSign ['-'] true

/-- The mark of an exponent, perhaps a sign, and all digits behind it, at least one, unless the
text does not begin with such a mark. -/
inductive ExponentAt : List Char → Option (Bool × List Char) → List Char → Prop
  | absent {s : List Char} (h : Avoids (fun c => c == 'e' || c == 'E') s) : ExponentAt s none s
  | present {mark : Char} {sign ds s : List Char} {negative : Bool}
    (hmark : mark = 'e' ∨ mark = 'E') (hsign : IsSign sign negative) (hds : IsDigits ds)
    (h : Avoids Char.isDigit s) :
    ExponentAt (mark :: (sign ++ (ds ++ s))) (some (negative, ds)) s

/-- A number at the start of a text, part by part, and the text behind it. -/
inductive NumberAt : List Char → NumberToken → List Char → Prop
  | mk {s s₁ s₂ s₃ rest whole : List Char} {negative : Bool} {fraction : Option (List Char)}
    {exponent : Option (Bool × List Char)} (hminus : MinusAt s negative s₁)
    (hwhole : WholeAt s₁ whole s₂) (hfraction : FractionAt s₂ fraction s₃)
    (hexponent : ExponentAt s₃ exponent rest) :
    NumberAt s ⟨negative, whole, fraction, exponent⟩ rest

lemma MinusAt.eq {s t : List Char} {negative : Bool} (h : MinusAt s negative t) :
    s = (if negative then ['-'] else []) ++ t := by
  cases h <;> rfl

lemma WholeAt.eq {s ds t : List Char} (h : WholeAt s ds t) : s = ds ++ t := by
  cases h <;> rfl

lemma WholeAt.avoids {s ds t : List Char} (h : WholeAt s ds t) : Avoids Char.isDigit t := by
  cases h <;> assumption

/-! ### Readers of parts -/

namespace NumberToken

variable {s rest ds : List Char}

lemma avoids_of_ne_cons {c : Char} (h : ∀ t, s = c :: t → False) : Avoids (· == c) s := by
  intro d hd
  rw [beq_eq_false_iff_ne]
  rintro rfl
  obtain ⟨t, ht⟩ := List.head?_eq_some_iff.1 hd
  exact h t ht

lemma minusAt_iff {negative : Bool} : MinusAt s negative rest ↔ scanMinus s = (negative, rest) := by
  refine ⟨fun h => ?_, fun h => ?_⟩
  · cases h with
    | absent h =>
      unfold scanMinus
      split
      · exact absurd (h '-' rfl) (by decide)
      · rfl
    | present => rfl
  · unfold scanMinus at h
    split at h
    · cases h
      exact .present
    · rename_i hne
      cases h
      exact .absent (avoids_of_ne_cons hne)

lemma avoids_spanDigits (s : List Char) : Avoids Char.isDigit (spanDigits s).2 :=
  avoids_dropWhile _ s

lemma wholeAt_iff : WholeAt s ds rest ↔ scanWhole s = some (ds, rest) := by
  refine ⟨fun h => ?_, fun h => ?_⟩
  · cases h with
    | zero h => exact scanWhole_append (List.forall_mem_singleton.2 rfl) rfl h
    | digits hds hhead h =>
      exact scanWhole_append hds.isDigit (isWhole_of_head hds.ne_nil hhead) h
  · rw [scanWhole] at h
    split_ifs at h with hwhole
    have hspan := Option.some.inj h
    have hs := spanDigits_eq s
    have hdigit : ∀ c ∈ (spanDigits s).1, c.isDigit = true := isDigit_of_mem_spanDigits
    have hrest := avoids_spanDigits s
    rw [hspan] at hwhole hs hdigit hrest
    subst hs
    rw [isWhole, Bool.and_eq_true, Bool.or_eq_true] at hwhole
    obtain ⟨hne, hzero | hhead⟩ := hwhole
    · obtain rfl : ds = ['0'] := by simpa using hzero
      exact .zero hrest
    · exact .digits ⟨by simpa using hne, hdigit⟩ (by simpa using hhead) hrest

lemma scanDigits_eq_some_iff : scanDigits s = some (ds, rest) ↔
    s = ds ++ rest ∧ IsDigits ds ∧ Avoids Char.isDigit rest := by
  rw [scanDigits]
  refine ⟨fun h => ?_, ?_⟩
  · split_ifs at h with hne
    have hspan := Option.some.inj h
    have hs := spanDigits_eq s
    have hdigit : ∀ c ∈ (spanDigits s).1, c.isDigit = true := isDigit_of_mem_spanDigits
    have hrest := avoids_spanDigits s
    rw [hspan] at hne hs hdigit hrest
    exact ⟨hs.symm, ⟨by simpa using hne, hdigit⟩, hrest⟩
  · rintro ⟨rfl, hds, hrest⟩
    rw [spanDigits_append hds.isDigit hrest, if_neg (by simpa using hds.ne_nil)]

lemma fractionAt_iff {fraction : Option (List Char)} :
    FractionAt s fraction rest ↔ scanFraction s = some (fraction, rest) := by
  refine ⟨fun h => ?_, fun h => ?_⟩
  · cases h with
    | absent h =>
      unfold scanFraction
      split
      · exact absurd (h '.' rfl) (by decide)
      · rfl
    | present hds h =>
      rw [scanFraction, scanDigits_eq_some_iff.2 ⟨rfl, hds, h⟩]
      rfl
  · unfold scanFraction at h
    split at h
    · obtain ⟨⟨ds, rest'⟩, hscan, heq⟩ := Option.map_eq_some_iff.1 h
      cases heq
      obtain ⟨rfl, hds, hrest⟩ := scanDigits_eq_some_iff.1 hscan
      exact .present hds hrest
    · rename_i hne
      cases h
      exact .absent (avoids_of_ne_cons hne)

/-- A sign is read off digits that follow it, as nothing else of them is a sign. -/
lemma scanSign_append {sign : List Char} {negative : Bool} (hsign : IsSign sign negative)
    (hds : IsDigits ds) (t : List Char) : scanSign (sign ++ (ds ++ t)) = (negative, ds ++ t) := by
  cases hsign with
  | none =>
    obtain ⟨hne, hdigit⟩ := hds
    cases ds with
    | nil => exact absurd rfl hne
    | cons c ds =>
      have hc := hdigit c List.mem_cons_self
      unfold scanSign
      split
      · cases ‹_ = _›
        exact absurd hc (by decide)
      · cases ‹_ = _›
        exact absurd hc (by decide)
      · rfl
  | plus => rfl
  | minus => rfl

lemma exists_isSign {negative : Bool} {t : List Char} (h : scanSign s = (negative, t)) :
    ∃ sign, IsSign sign negative ∧ s = sign ++ t := by
  unfold scanSign at h
  split at h <;> cases h
  · exact ⟨_, .plus, rfl⟩
  · exact ⟨_, .minus, rfl⟩
  · exact ⟨_, .none, rfl⟩

lemma exponentAt_iff {exponent : Option (Bool × List Char)} :
    ExponentAt s exponent rest ↔ scanExponent s = some (exponent, rest) := by
  refine ⟨fun h => ?_, fun h => ?_⟩
  · cases h with
    | absent h =>
      cases s with
      | nil => rfl
      | cons c s => rw [scanExponent, if_neg (by simpa using h c rfl)]
    | present hmark hsign hds h =>
      rw [scanExponent, if_pos hmark, scanSign_append hsign hds,
        scanDigits_eq_some_iff.2 ⟨rfl, hds, h⟩]
      rfl
  · cases s with
    | nil =>
      cases h
      exact .absent (avoids_nil _)
    | cons c s =>
      rw [scanExponent] at h
      split_ifs at h with hmark
      · obtain ⟨⟨ds, rest'⟩, hscan, heq⟩ := Option.map_eq_some_iff.1 h
        cases heq
        rcases hs : scanSign s with ⟨negative, t⟩
        rw [hs] at hscan
        obtain ⟨sign, hsign, rfl⟩ := exists_isSign hs
        obtain ⟨rfl, hds, hrest⟩ := scanDigits_eq_some_iff.1 hscan
        exact .present hmark hsign hds hrest
      · cases h
        exact .absent (avoids_cons (by simpa using hmark))

/-- **Numbers.** What the reader of numbers takes off a text is a number, part by part. -/
theorem numberAt_iff {token : NumberToken} :
    NumberAt s token rest ↔ scan? s = some (token, rest) := by
  refine ⟨fun h => ?_, fun h => ?_⟩
  · cases h with
    | mk hminus hwhole hfraction hexponent =>
      simp only [scan?, minusAt_iff.1 hminus, wholeAt_iff.1 hwhole, fractionAt_iff.1 hfraction,
        exponentAt_iff.1 hexponent, Option.bind_eq_bind, Option.bind_some, Option.pure_def]
  · simp only [scan?, Option.bind_eq_bind, Option.bind_eq_some_iff] at h
    obtain ⟨⟨whole, s₂⟩, hwhole, ⟨fraction, s₃⟩, hfraction, ⟨exponent, s₄⟩, hexponent, h⟩ := h
    cases h
    exact .mk (minusAt_iff.2 rfl) (wholeAt_iff.2 hwhole) (fractionAt_iff.2 hfraction)
      (exponentAt_iff.2 hexponent)

end NumberToken

/-! ### Readers of tokens -/

namespace Token

variable {s t ds rest : List Char} {negative : Bool} {n : Int}

/-- A sign and a whole part with a value are the text of an integer. -/
lemma isIntText_of_intValue? (hwhole : WholeAt t ds rest) (h : intValue? negative ds = some n) :
    IsIntText ((if negative then ['-'] else []) ++ ds) n ∧ IsSafe n := by
  simp only [intValue?] at h
  split_ifs at h with hvalue hneg
  · obtain rfl := Option.some.inj h
    refine ⟨?_, by rw [IsSafe, Int.natAbs_neg, Int.natAbs_natCast]; exact hvalue.1⟩
    rw [if_pos hneg]
    cases hwhole with
    | zero => exact absurd ⟨hneg, rfl⟩ hvalue.2
    | digits hds hhead => exact .negative hds hhead
  · obtain rfl := Option.some.inj h
    refine ⟨?_, by rw [IsSafe, Int.natAbs_natCast]; exact hvalue.1⟩
    rw [if_neg hneg]
    cases hwhole with
    | zero => exact .zero
    | digits hds hhead => exact .positive hds hhead

/-- **Integers.** What the reader of integers takes off a text is the text of an integer of safe
magnitude, and no further digit follows it. -/
theorem int?_eq_some_iff : (int? s).map Parsed.plain = some (n, rest) ↔
    ∃ run, s = run ++ rest ∧ Avoids Char.isDigit rest ∧ IsIntText run n ∧ IsSafe n := by
  refine ⟨fun h => ?_, ?_⟩
  · rw [int?_plain] at h
    obtain ⟨⟨ds, rest'⟩, hscan, h⟩ := Option.bind_eq_some_iff.1 h
    obtain ⟨m, hvalue, heq⟩ := Option.map_eq_some_iff.1 h
    cases heq
    rcases hs : NumberToken.scanMinus s with ⟨negative, t⟩
    rw [hs] at hscan hvalue
    have hwhole := NumberToken.wholeAt_iff.2 hscan
    obtain ⟨hrun, hsafe⟩ := isIntText_of_intValue? hwhole hvalue
    refine ⟨_, ?_, hwhole.avoids, hrun, hsafe⟩
    rw [List.append_assoc, ← hwhole.eq]
    exact (NumberToken.minusAt_iff.2 hs).eq
  · rintro ⟨run, rfl, hrest, hrun, hsafe⟩
    obtain rfl := isIntText_iff.1 hrun
    have hdigit : ∀ c ∈ natChars n.natAbs, c.isDigit = true := fun c hc => isDigit_of_mem_natChars hc
    have hwhole := NumberToken.scanWhole_append hdigit (NumberToken.isWhole_natChars _) hrest
    rw [int?_plain, intChars_eq, List.append_assoc,
      NumberToken.scanMinus_append _ rest hdigit (natChars_ne_nil _)]
    simp only [hwhole, Option.bind_some, intValue?_natAbs hsafe, Option.map_some]

/-- What the reader of numbers takes off a text is a number of which some double is the
nearest. -/
lemma number?_eq_some_iff {x : Double} : (number? s).map Parsed.plain = some (x, rest) ↔
    ∃ token, NumberAt s token rest ∧ token.double? = some x := by
  rw [number?_plain]
  refine ⟨fun h => ?_, ?_⟩
  · obtain ⟨⟨token, rest'⟩, hscan, h⟩ := Option.bind_eq_some_iff.1 h
    obtain ⟨y, hvalue, heq⟩ := Option.map_eq_some_iff.1 h
    cases heq
    exact ⟨token, NumberToken.numberAt_iff.2 hscan, hvalue⟩
  · rintro ⟨token, hnumber, hvalue⟩
    rw [NumberToken.numberAt_iff.1 hnumber, Option.bind_some, hvalue, Option.map_some]

end Token
end JsonQuery
