import JsonQuery.Proofs.Finiteness
import JsonQuery.Proofs.NumberTexts
import JsonQuery.Proofs.Words

/-!
Reading integers and numbers with a cursor. The cursor moves over the text while it is not yet
known whether there is a token, and is put back if there is none. What it reads is what the
readers of tokens take off the text behind it, digits too many for a word included.
-/

namespace JsonQuery

/-- A text, and how many of its characters have been read. -/
structure Cursor where
  text : List Char
  position : Nat
  deriving DecidableEq

namespace Cursor

/-! ### Moves -/

/-- The text that has not been read. -/
def rest (c : Cursor) : List Char := c.text.drop c.position

/-- What has been read since the cursor was somewhere. -/
def since (c : Cursor) (start : Nat) : List Char := (c.text.take c.position).drop start

def advance (c : Cursor) (n : Nat) : Cursor := { c with position := c.position + n }

def reset (c : Cursor) (start : Nat) : Cursor := { c with position := start }

def peekIs (c : Cursor) (p : Char → Bool) : Bool := c.rest.head?.any p

/-- Moves over one character if it is the next one, and says whether it was. -/
def eat (c : Cursor) (expected : Char) : Bool × Cursor :=
  if c.rest.head? = some expected then (true, c.advance 1) else (false, c)

/-- Moves over one of two characters. -/
def eatEither (c : Cursor) (one other : Char) : Bool × Cursor :=
  match c.eat one with
  | (true, c) => (true, c)
  | (false, c) => c.eat other

lemma length_rest_advance_lt {c : Cursor} {p : Char → Bool} (h : c.peekIs p = true) :
    (c.advance 1).rest.length < c.rest.length := by
  have hrest : (c.advance 1).rest = c.rest.drop 1 := (List.drop_drop ..).symm
  have hpos : c.rest ≠ [] := by
    intro hnil
    rw [peekIs, hnil] at h
    cases h
  have := List.length_pos_iff.2 hpos
  rw [hrest, List.length_drop]
  omega

/-- Moves over all digits that follow. -/
def skipDigits (c : Cursor) : Cursor :=
  if c.peekIs Char.isDigit then (c.advance 1).skipDigits else c
termination_by c.rest.length
decreasing_by exact length_rest_advance_lt ‹_›

/-- Moves over all digits that follow, and says whether there was one. -/
def eatDigits (c : Cursor) : Bool × Cursor :=
  (decide (c.position < c.skipDigits.position), c.skipDigits)

/-! ### Parts of numbers -/

/-- Zero, or digits that do not begin with zero. -/
def wholePart (c : Cursor) : Bool × Cursor :=
  match c.eat '0' with
  | (true, c) => (!c.peekIs Char.isDigit, c)
  | (false, c) => c.eatDigits

/-- A point asks for digits. -/
def fractionPart (c : Cursor) : Bool × Cursor :=
  match c.eat '.' with
  | (true, c) => c.eatDigits
  | (false, c) => (true, c)

/-- The mark of an exponent asks for digits, which a sign may precede. -/
def exponentPart (c : Cursor) : Bool × Cursor :=
  match c.eatEither 'e' 'E' with
  | (true, c) => (c.eatEither '+' '-').2.eatDigits
  | (false, c) => (true, c)

/-- One part after another, if there is the first. -/
def both (first second : Cursor → Bool × Cursor) (c : Cursor) : Bool × Cursor :=
  match first c with
  | (true, c) => second c
  | (false, c) => (false, c)

/-- The text of a number. -/
def numberText (c : Cursor) (start : Nat) : Option (List Char) × Cursor :=
  let parts := both wholePart (both fractionPart exponentPart) (c.eat '-').2
  (if parts.1 then some (parts.2.since start) else none, parts.2)

/-! ### Tokens -/

/-- A value that has been read, with the cursor behind it, or where it was if there is none. -/
def settle {α : Type} (start : Nat) (value? : Option α) (c : Cursor) : Option α × Cursor :=
  (value?, if value?.isNone then c.reset start else c)

/-- The word that the text of an integer is read as. There is no minus zero, and the magnitude is
at most the safe one. -/
def intWord? (negative : Bool) (text : List Char) : Option Int64 :=
  if negative && text == ['-', '0'] then none
  else (Word.ofText? text).filter fun a => a.toInt.natAbs ≤ Double.maxSafe

/-- An integer. -/
def readInt (c : Cursor) : Option Int64 × Cursor :=
  let minus := c.eat '-'
  let whole := minus.2.wholePart
  let text? := if whole.1 then some (whole.2.since c.position) else none
  settle c.position (text?.bind (intWord? minus.1)) whole.2

/-- The double that a whole text is read as, if it is finite. -/
def finite? (text : List Char) : Option Double :=
  match NumberToken.scan? text with
  | some (token, []) => token.double?
  | _ => none

/-- A number. -/
def readNumber (c : Cursor) : Option Double × Cursor :=
  let number := c.numberText c.position
  settle c.position (number.1.bind finite?) number.2

/-! ### Where a cursor moves -/

/-- A cursor that has been moved over a part of the text. -/
structure Past (c : Cursor) (run : List Char) (c' : Cursor) : Prop where
  rest : c.rest = run ++ c'.rest
  moved : c' = c.advance run.length

section Past

variable {c c' c'' : Cursor} {run more t : List Char}

lemma rest_advance (c : Cursor) (n : Nat) : (c.advance n).rest = c.rest.drop n :=
  (List.drop_drop ..).symm

lemma Past.here (c : Cursor) : c.Past [] c := ⟨rfl, rfl⟩

lemma past_of_rest (h : c.rest = run ++ t) :
    c.Past run (c.advance run.length) ∧ (c.advance run.length).rest = t := by
  have hrest : (c.advance run.length).rest = t := by rw [rest_advance, h, List.drop_left]
  exact ⟨⟨by rw [hrest, h], rfl⟩, hrest⟩

lemma Past.trans (h : c.Past run c') (h' : c'.Past more c'') : c.Past (run ++ more) c'' where
  rest := by rw [h.rest, h'.rest, List.append_assoc]
  moved := by
    rw [h'.moved, h.moved, List.length_append]
    simp [advance, Nat.add_assoc]

/-- How far a cursor has been moved is known from the text that is left. -/
lemma Past.eq_of_rest (h : c.Past run c') (h' : c.Past more c'') (heq : c'.rest = c''.rest) :
    run = more ∧ c' = c'' := by
  have hrun : run = more := by
    have hrest := h.rest.symm.trans h'.rest
    rw [heq] at hrest
    exact List.append_cancel_right hrest
  exact ⟨hrun, by rw [h.moved, h'.moved, hrun]⟩

lemma Past.since (h : c.Past run c') : c'.since c.position = run := by
  have htake : c.rest.take run.length = run := by rw [h.rest, List.take_left]
  rw [h.moved]
  simpa [Cursor.since, advance, Cursor.rest, List.drop_take] using htake

lemma Past.reset (h : c.Past run c') : c'.reset c.position = c := by
  rw [h.moved]
  rfl

/-- A cursor moves over the character it expects, or the text begins with another one. -/
lemma eat_cases (c : Cursor) (expected : Char) :
    (c.Past [expected] (c.advance 1) ∧ c.eat expected = (true, c.advance 1)) ∨
    (Avoids (· == expected) c.rest ∧ c.eat expected = (false, c)) := by
  rw [eat]
  split_ifs with hhead
  · obtain ⟨t, ht⟩ := List.head?_eq_some_iff.1 hhead
    have hrest : c.rest = [expected] ++ t := ht
    exact .inl ⟨(past_of_rest hrest).1, rfl⟩
  · refine .inr ⟨NumberToken.avoids_of_ne_cons fun t ht => hhead ?_, rfl⟩
    rw [ht]
    rfl

end Past

/-! ### Parts -/

/-- What a cursor does with a part of a token, against what a reader takes off the text: it finds
one if the reader does, and then leaves the same text; in any case it only moves forward. -/
structure Scans {α : Type} (c : Cursor) (done : Bool × Cursor) (taken : Option (α × List Char)) :
    Prop where
  past : ∃ run, c.Past run done.2
  found : done.1 = taken.isSome
  rest : ∀ a t, taken = some (a, t) → done.2.rest = t

section Scans

variable {α β : Type} {c c' : Cursor} {run t : List Char} {done : Bool × Cursor}
  {taken : Option (α × List Char)}

lemma Past.scans_some (h : c.Past run c') (a : α) : c.Scans (true, c') (some (a, c'.rest)) where
  past := ⟨run, h⟩
  found := rfl
  rest := by
    rintro _ _ ⟨⟩
    rfl

lemma Past.scans_none (h : c.Past run c') :
    c.Scans (false, c') (none : Option (α × List Char)) where
  past := ⟨run, h⟩
  found := rfl
  rest := by simp

lemma Scans.behind (h : c.Past run c') (h' : c'.Scans done taken) : c.Scans done taken where
  past := by
    obtain ⟨more, hmore⟩ := h'.past
    exact ⟨run ++ more, h.trans hmore⟩
  found := h'.found
  rest := h'.rest

lemma Scans.map (h : c.Scans done taken) (f : α → β) :
    c.Scans done (taken.map fun p => (f p.1, p.2)) where
  past := h.past
  found := by rw [h.found, Option.isSome_map]
  rest := by
    intro b t ht
    obtain ⟨⟨a, t'⟩, ha, heq⟩ := Option.map_eq_some_iff.1 ht
    cases heq
    exact h.rest a _ ha

/-- What two readers take off a text, one after the other. -/
def scanBoth (scan : List Char → Option (α × List Char)) (next : List Char → Option (β × List Char))
    (s : List Char) : Option ((α × β) × List Char) :=
  (scan s).bind fun p => (next p.2).map fun q => ((p.1, q.1), q.2)

lemma Scans.both {first second : Cursor → Bool × Cursor} {scan : List Char → Option (α × List Char)}
    {next : List Char → Option (β × List Char)} (h : c.Scans (first c) (scan c.rest))
    (h' : ∀ c' : Cursor, c'.Scans (second c') (next c'.rest)) :
    c.Scans (both first second c) (scanBoth scan next c.rest) := by
  obtain ⟨⟨run, hpast⟩, hfound, hrest⟩ := h
  rw [Cursor.both, scanBoth]
  rcases hfirst : first c with ⟨_ | _, c'⟩
  · rw [hfirst] at hpast hfound
    obtain hscan : scan c.rest = none := by simpa using hfound.symm
    rw [hscan]
    exact hpast.scans_none
  · rw [hfirst] at hpast hfound hrest
    obtain ⟨⟨a, t⟩, hscan⟩ := Option.isSome_iff_exists.1 hfound.symm
    obtain rfl := hrest a t hscan
    rw [hscan]
    exact ((h' c').map fun b => (a, b)).behind hpast

end Scans

/-! The parts of a number. -/

section Parts

variable {c : Cursor} {t : List Char}

lemma exists_of_peekIs {p : Char → Bool} (h : c.peekIs p = true) :
    ∃ d t, c.rest = d :: t ∧ p d = true := by
  rw [peekIs, Option.any_eq_true] at h
  obtain ⟨d, hd, hp⟩ := h
  obtain ⟨t, ht⟩ := List.head?_eq_some_iff.1 hd
  exact ⟨d, t, ht, hp⟩

lemma avoids_of_peekIs {p : Char → Bool} (h : ¬ c.peekIs p = true) : Avoids p c.rest := by
  intro d hd
  rw [peekIs, hd] at h
  simpa using h

lemma skipDigits_eq (c : Cursor) :
    c.skipDigits = c.advance (c.rest.takeWhile Char.isDigit).length := by
  fun_induction skipDigits c with
  | case1 c h ih =>
    obtain ⟨d, t, hrest, hd⟩ := exists_of_peekIs h
    rw [ih, rest_advance, hrest, List.takeWhile_cons_of_pos hd]
    simp [advance, Nat.add_comm, Nat.add_left_comm]
  | case2 c h =>
    rw [(avoids_of_peekIs h).takeWhile_eq]
    rfl

lemma scans_eatDigits (c : Cursor) : c.Scans c.eatDigits (NumberToken.scanDigits c.rest) := by
  have hskip : c.skipDigits = c.advance (spanDigits c.rest).1.length := skipDigits_eq c
  have hspan := (NumberToken.spanDigits_eq c.rest).symm
  rw [eatDigits, hskip, NumberToken.scanDigits]
  rcases hs : spanDigits c.rest with ⟨ds, t⟩
  rw [hs] at hspan
  have hrest : c.rest = ds ++ t := hspan
  obtain ⟨hpast, rfl⟩ := past_of_rest hrest
  cases ds with
  | nil =>
    have hdone : decide (c.position < (c.advance 0).position) = false :=
      decide_eq_false (Nat.lt_irrefl _)
    simpa [hdone] using hpast.scans_none
  | cons d ds =>
    have hdone : decide (c.position < (c.advance (ds.length + 1)).position) = true :=
      decide_eq_true (Nat.lt_add_of_pos_right (Nat.succ_pos _))
    simpa [hdone] using hpast.scans_some (d :: ds)

/-- Where there is no zero at first, digits are a whole part. -/
lemma scanWhole_eq_scanDigits (h : Avoids (· == '0') t) :
    NumberToken.scanWhole t = NumberToken.scanDigits t := by
  refine Option.ext fun ⟨ds, rest⟩ => ?_
  rw [← NumberToken.wholeAt_iff, NumberToken.scanDigits_eq_some_iff]
  refine ⟨fun hwhole => ?_, ?_⟩
  · cases hwhole with
    | zero => exact absurd (h '0' rfl) (by decide)
    | digits hds _ hrest => exact ⟨rfl, hds, hrest⟩
  · rintro ⟨rfl, hds, hrest⟩
    refine .digits hds (fun hhead => ?_) hrest
    have hzero := h '0' (by rw [List.head?_append_of_ne_nil _ hds.ne_nil, hhead]; rfl)
    exact absurd hzero (by decide)

lemma scanWhole_zero_eq_none (h : ¬ Avoids Char.isDigit t) :
    NumberToken.scanWhole ('0' :: t) = none := by
  refine Option.eq_none_iff_forall_ne_some.2 fun ⟨ds, rest⟩ hscan => ?_
  generalize hs : '0' :: t = s at hscan
  cases NumberToken.wholeAt_iff.2 hscan with
  | zero hrest =>
    cases hs
    exact h hrest
  | digits hds hhead =>
    refine hhead ?_
    rw [← List.head?_append_of_ne_nil _ hds.ne_nil, ← hs]
    rfl

lemma scans_wholePart (c : Cursor) : c.Scans c.wholePart (NumberToken.scanWhole c.rest) := by
  rw [wholePart]
  rcases c.eat_cases '0' with ⟨hpast, heat⟩ | ⟨havoids, heat⟩
  · have hzero : c.rest = '0' :: (c.advance 1).rest := hpast.rest
    rw [heat, hzero]
    dsimp only
    by_cases hpeek : (c.advance 1).peekIs Char.isDigit = true
    · -- A zero before another digit: the cursor is behind the zero, but has found nothing.
      obtain ⟨d, t, hrest, hd⟩ := exists_of_peekIs hpeek
      have hnot : ¬ Avoids Char.isDigit (c.advance 1).rest := by
        rw [hrest]
        intro havoids
        rw [havoids d rfl] at hd
        cases hd
      rw [hpeek, scanWhole_zero_eq_none hnot]
      exact hpast.scans_none
    · have hscan := NumberToken.wholeAt_iff.1 (.zero (avoids_of_peekIs hpeek))
      rw [Bool.not_eq_true] at hpeek
      rw [hpeek, hscan]
      exact hpast.scans_some _
  · rw [heat, scanWhole_eq_scanDigits havoids]
    exact scans_eatDigits c

lemma scans_fractionPart (c : Cursor) :
    c.Scans c.fractionPart (NumberToken.scanFraction c.rest) := by
  rw [fractionPart]
  rcases c.eat_cases '.' with ⟨hpast, heat⟩ | ⟨havoids, heat⟩
  · have hpoint : c.rest = '.' :: (c.advance 1).rest := hpast.rest
    rw [heat, hpoint]
    exact ((scans_eatDigits (c.advance 1)).map some).behind hpast
  · rw [heat, NumberToken.fractionAt_iff.1 (.absent havoids)]
    exact (Past.here c).scans_some none

/-- Of two characters, one is moved over, or the text begins with neither. -/
lemma eatEither_cases (c : Cursor) (one other : Char) :
    (∃ mark, (mark = one ∨ mark = other) ∧ c.Past [mark] (c.advance 1) ∧
      c.eatEither one other = (true, c.advance 1)) ∨
    (Avoids (fun d => d == one || d == other) c.rest ∧ c.eatEither one other = (false, c)) := by
  rw [eatEither]
  rcases c.eat_cases one with ⟨hpast, heat⟩ | ⟨havoids, heat⟩
  · rw [heat]
    exact .inl ⟨one, .inl rfl, hpast, rfl⟩
  rw [heat]
  rcases c.eat_cases other with ⟨hpast, heat⟩ | ⟨havoids', heat⟩
  · exact .inl ⟨other, .inr rfl, hpast, heat⟩
  · refine .inr ⟨fun d hd => ?_, heat⟩
    rw [Bool.or_eq_false_iff]
    exact ⟨havoids d hd, havoids' d hd⟩

/-- The sign of an exponent is moved over. -/
lemma past_sign (c : Cursor) : ∃ sign, c.Past sign (c.eatEither '+' '-').2 ∧
    (c.eatEither '+' '-').2.rest = (NumberToken.scanSign c.rest).2 := by
  rcases c.eatEither_cases '+' '-' with ⟨mark, hmark, hpast, heat⟩ | ⟨havoids, heat⟩
  · have hrest : c.rest = mark :: (c.advance 1).rest := hpast.rest
    rw [heat, hrest]
    refine ⟨[mark], hpast, ?_⟩
    rcases hmark with rfl | rfl <;> rfl
  · rw [heat]
    refine ⟨[], .here c, ?_⟩
    unfold NumberToken.scanSign
    split
    · exact absurd (havoids '+' (by simp [*])) (by decide)
    · exact absurd (havoids '-' (by simp [*])) (by decide)
    · rfl

lemma past_minus (c : Cursor) : ∃ sign, c.Past sign (c.eat '-').2 ∧
    NumberToken.scanMinus c.rest = ((c.eat '-').1, (c.eat '-').2.rest) ∧
    sign = if (c.eat '-').1 then ['-'] else [] := by
  rcases c.eat_cases '-' with ⟨hpast, heat⟩ | ⟨havoids, heat⟩
  · have hminus : c.rest = '-' :: (c.advance 1).rest := hpast.rest
    rw [heat, hminus]
    exact ⟨_, hpast, rfl, rfl⟩
  · rw [heat, NumberToken.minusAt_iff.1 (.absent havoids)]
    exact ⟨_, .here c, rfl, rfl⟩

lemma scans_exponentPart (c : Cursor) :
    c.Scans c.exponentPart (NumberToken.scanExponent c.rest) := by
  rw [exponentPart]
  rcases c.eatEither_cases 'e' 'E' with ⟨mark, hmark, hpast, heat⟩ | ⟨havoids, heat⟩
  · have hmarked : c.rest = mark :: (c.advance 1).rest := hpast.rest
    obtain ⟨sign, hsign, hrest⟩ := past_sign (c.advance 1)
    have hdigits := (scans_eatDigits ((c.advance 1).eatEither '+' '-').2).map fun ds =>
      some ((NumberToken.scanSign (c.advance 1).rest).1, ds)
    rw [hrest] at hdigits
    rw [heat, hmarked, NumberToken.scanExponent, if_pos hmark]
    exact (hdigits.behind hsign).behind hpast
  · rw [heat, NumberToken.exponentAt_iff.1 (.absent havoids)]
    exact (Past.here c).scans_some none

end Parts

/-! ### Tokens -/

/-- A reader with a cursor, against a reader of tokens: it gives the same value, if any, and then
leaves the same text; and it only moves forward, not at all if there is no value. -/
structure Reads {α β : Type} (value : α → β) (read : Cursor → Option α × Cursor)
    (token : List Char → Option (β × List Char)) : Prop where
  agrees : ∀ c : Cursor, ((read c).1.map fun a => (value a, (read c).2.rest)) = token c.rest
  past : ∀ c : Cursor, ∃ run, c.Past run (read c).2
  unmoved : ∀ c : Cursor, (read c).1 = none → (read c).2 = c

section Reads

variable {α β : Type} {value : α → β} {read : Cursor → Option α × Cursor}
  {token : List Char → Option (β × List Char)}

lemma Reads.eq_some_iff (h : Reads value read token) (hvalue : Function.Injective value)
    {c c' : Cursor} {a : α} : read c = (some a, c') ↔
      ∃ run, c.Past run c' ∧ token c.rest = some (value a, c'.rest) := by
  have hagrees := h.agrees c
  obtain ⟨run, hpast⟩ := h.past c
  refine ⟨fun hread => ?_, ?_⟩
  · rw [hread] at hagrees hpast
    exact ⟨run, hpast, hagrees.symm⟩
  · rintro ⟨more, hmore, htoken⟩
    rw [htoken] at hagrees
    obtain ⟨a', ha', heq⟩ := Option.map_eq_some_iff.1 hagrees
    obtain ⟨hvalues, hrest⟩ := Prod.mk.inj heq
    rw [← hvalue hvalues, ← (hpast.eq_of_rest hmore hrest).2, ← ha']

lemma Reads.eq_of_none (h : Reads value read token) {c c' : Cursor} (hread : read c = (none, c')) :
    c' = c := by
  have hunmoved := h.unmoved c
  rw [hread] at hunmoved
  exact hunmoved rfl

/-- A reader that moves over some text and then settles on a value, the one of the token. -/
lemma reads_of_settle (h : ∀ c : Cursor, ∃ run ended value?, c.Past run ended ∧
    read c = settle c.position value? ended ∧
    (value?.map fun a => (value a, ended.rest)) = token c.rest) : Reads value read token where
  agrees := by
    intro c
    obtain ⟨run, ended, value?, -, hread, htoken⟩ := h c
    rw [hread, ← htoken]
    cases value? <;> rfl
  past := by
    intro c
    obtain ⟨run, ended, value?, hpast, hread, -⟩ := h c
    rw [hread]
    cases value? with
    | none =>
      have hreset : (settle c.position (none : Option α) ended).2 = c := hpast.reset
      rw [hreset]
      exact ⟨[], .here c⟩
    | some a => exact ⟨run, hpast⟩
  unmoved := by
    intro c hnone
    obtain ⟨run, ended, value?, hpast, hread, -⟩ := h c
    rw [hread] at hnone ⊢
    obtain rfl : value? = none := hnone
    exact hpast.reset

end Reads

/-! ### Integers -/

section Integers

variable {negative : Bool} {ds s t : List Char}

lemma ofText?_eq_some_iff (hds : IsDigits ds) {a : Int64} :
    Word.ofText? ((if negative then ['-'] else []) ++ ds) = some a ↔
      a.toInt = Word.signed negative (natOfDigits ds) := by
  have hsign : IsSign (if negative then ['-'] else []) negative := by
    cases negative with
    | false => exact .none
    | true => exact .minus
  have hscan := NumberToken.scanSign_append hsign hds []
  have hzero : (0 : Int64).toInt = Word.signed negative 0 := by cases negative <;> rfl
  have hread : Word.ofDigits negative ds = .ok a ↔ a.toInt = Word.signed negative (natOfDigits ds) :=
    Word.foldlM_push_eq_ok_iff hds.isDigit hzero
  have hguard : (ds.isEmpty || !ds.all Char.isDigit) = false := by
    have hne := hds.ne_nil
    have hall : ds.all Char.isDigit = true := List.all_eq_true.2 hds.isDigit
    simpa [hall] using hne
  rw [List.append_nil] at hscan
  rw [Word.ofText?, hscan, ← hread]
  dsimp only
  rw [hguard, if_neg Bool.false_ne_true]
  cases Word.ofDigits negative ds <;> simp [Except.toOption]

lemma isDigits_of_wholeAt (h : WholeAt s ds t) : IsDigits ds := by
  cases h with
  | zero => exact ⟨List.cons_ne_nil _ _, List.forall_mem_singleton.2 rfl⟩
  | digits hds => exact hds

/-- Of the whole parts, only a single zero denotes zero. -/
lemma eq_zero_iff_of_wholeAt (h : WholeAt s ds t) : ds = ['0'] ↔ natOfDigits ds = 0 := by
  cases h with
  | zero => exact iff_of_true rfl rfl
  | digits hds hhead =>
    have hpos := natOfDigits_pos (natChars_natOfDigits hds hhead) hhead
    refine iff_of_false ?_ (by omega)
    rintro rfl
    exact hhead rfl

/-- Minus zero is known by its text. -/
lemma isMinusZero_iff (h : WholeAt s ds t) :
    (negative && (if negative then ['-'] else []) ++ ds == ['-', '0']) = true ↔
      negative = true ∧ natOfDigits ds = 0 := by
  rw [← eq_zero_iff_of_wholeAt h]
  cases negative <;> simp

/-- The word of the text is that of the value of the sign and the whole part. -/
lemma intWord?_eq (h : WholeAt s ds t) :
    (intWord? negative ((if negative then ['-'] else []) ++ ds)).map Int64.toInt =
      Token.intValue? negative ds := by
  have hvalue : Token.intValue? negative ds =
      if natOfDigits ds ≤ Double.maxSafe ∧ ¬(negative = true ∧ natOfDigits ds = 0) then
        some (Word.signed negative (natOfDigits ds)) else none := rfl
  have habs := Word.natAbs_signed negative (natOfDigits ds)
  refine Option.ext fun n => ?_
  simp only [hvalue, intWord?, isMinusZero_iff h, Option.map_eq_some_iff,
    Option.ite_none_left_eq_some, Option.ite_none_right_eq_some, Option.filter_eq_some_iff,
    ofText?_eq_some_iff (isDigits_of_wholeAt h), decide_eq_true_eq]
  refine ⟨?_, ?_⟩
  · rintro ⟨a, ⟨hzero, ha, hsafe⟩, rfl⟩
    rw [ha, habs] at hsafe
    exact ⟨⟨hsafe, hzero⟩, congrArg some ha.symm⟩
  · -- A text of more digits than a word holds has no safe value, so none is missed.
    rintro ⟨⟨hsafe, hzero⟩, heq⟩
    have hsigned : IsSafe (Word.signed negative (natOfDigits ds)) := by
      rw [IsSafe, habs]
      exact hsafe
    obtain ⟨a, ha⟩ := hsigned.exists_toInt_eq
    exact ⟨a, ⟨hzero, ha, by rw [ha, habs]; exact hsafe⟩, ha.trans (Option.some.inj heq)⟩

/-- **Integers.** The cursor reads the integer that the reader of tokens takes off the text. -/
theorem reads_readInt :
    Reads Int64.toInt readInt fun s => (Token.int? s).map Parsed.plain := by
  refine reads_of_settle fun c => ?_
  obtain ⟨sign, hsign, hminus, hneg⟩ := past_minus c
  obtain ⟨⟨digits, hdigits⟩, hfound, hrest⟩ := scans_wholePart (c.eat '-').2
  have hpast := hsign.trans hdigits
  refine ⟨_, _, _, hpast, rfl, ?_⟩
  rw [Token.int?_plain, hminus, hfound]
  dsimp only
  cases hscan : NumberToken.scanWhole (c.eat '-').2.rest with
  | none => rfl
  | some p =>
    obtain ⟨ds, t⟩ := p
    have hwhole := NumberToken.wholeAt_iff.2 hscan
    obtain rfl := hrest ds t hscan
    obtain rfl : digits = ds := List.append_cancel_right (hdigits.rest.symm.trans hwhole.eq)
    rw [Option.isSome_some, if_pos rfl, hpast.since, hneg, Option.bind_some, Option.bind_some,
      ← intWord?_eq hwhole, Option.map_map]
    rfl

end Integers

/-! ### Numbers -/

/-- The parts of a number but for its sign. -/
def scanParts : List Char →
    Option ((List Char × Option (List Char) × Option (Bool × List Char)) × List Char) :=
  scanBoth NumberToken.scanWhole (scanBoth NumberToken.scanFraction NumberToken.scanExponent)

lemma scan?_eq (s : List Char) : NumberToken.scan? s =
    (scanParts (NumberToken.scanMinus s).2).map fun p =>
      (⟨(NumberToken.scanMinus s).1, p.1.1, p.1.2.1, p.1.2.2⟩, p.2) := by
  rw [NumberToken.scan?]
  simp only [scanParts, scanBoth, Option.bind_eq_bind, Option.pure_def, Option.map_eq_bind,
    Function.comp_def, Option.bind_assoc, Option.bind_some]

lemma scans_parts (c : Cursor) :
    c.Scans (both wholePart (both fractionPart exponentPart) c) (scanParts c.rest) :=
  (scans_wholePart c).both fun c' => (scans_fractionPart c').both scans_exponentPart

/-- The text of a number, read as a whole, is read as the number. -/
lemma finite?_eq {run t : List Char} {token : NumberToken}
    (h : NumberToken.scan? (run ++ t) = some (token, t)) : finite? run = token.double? := by
  obtain ⟨w, hw, hscan⟩ := NumberToken.cuts_scan?.token h
  obtain rfl : run = w := List.append_cancel_right hw
  rw [finite?, hscan]

/-- **Numbers.** The cursor reads the double that the reader of tokens takes off the text. -/
theorem reads_readNumber :
    Reads id readNumber fun s => (Token.number? s).map Parsed.plain := by
  refine reads_of_settle fun c => ?_
  obtain ⟨sign, hsign, hminus, -⟩ := past_minus c
  obtain ⟨⟨parts, hparts⟩, hfound, hrest⟩ := scans_parts (c.eat '-').2
  have hpast := hsign.trans hparts
  refine ⟨_, _, _, hpast, rfl, ?_⟩
  rw [Token.number?_plain, numberText, hfound]
  have hscan := scan?_eq c.rest
  rw [hminus] at hscan
  dsimp only at hscan ⊢
  cases hvalue : scanParts (c.eat '-').2.rest with
  | none =>
    rw [hscan, hvalue]
    rfl
  | some p =>
    obtain ⟨token, t⟩ := p
    rw [hvalue, Option.map_some] at hscan
    rw [Option.isSome_some, if_pos rfl, hpast.since, hscan, Option.bind_some, Option.bind_some]
    obtain rfl := hrest token t hvalue
    rw [hpast.rest] at hscan
    rw [finite?_eq hscan]
    rfl

/-! ### Both -/

/-- **Integers and numbers.** The reader of integers succeeds if and only if the text at the cursor
begins with the text of an integer of safe magnitude and no further digit follows it, and then
moves the cursor just behind it. The reader of numbers succeeds if and only if the text begins with
a number, part by part, of which some double is the nearest, which is so if it is below the middle
between the largest double and the power of two above it; and then it moves the cursor just behind
the whole number. A reader that does not succeed leaves the cursor where it was. Both read what the
readers of tokens take off the text. -/
theorem readInt_readNumber (c : Cursor) :
    (∀ (a : Int64) (c' : Cursor), c.readInt = (some a, c') ↔ ∃ run, c.Past run c' ∧
      Avoids Char.isDigit c'.rest ∧ IsIntText run a.toInt ∧ IsSafe a.toInt) ∧
    (∀ c', c.readInt = (none, c') → c' = c) ∧
    (∀ (x : Double) (c' : Cursor), c.readNumber = (some x, c') ↔ ∃ run token, c.Past run c' ∧
      NumberAt c.rest token c'.rest ∧ token.double? = some x) ∧
    (∀ c', c.readNumber = (none, c') → c' = c) ∧
    (∀ token : NumberToken, (∃ x, token.double? = some x) ↔ token.decimal.IsFinite) ∧
    (c.readInt.1.map fun a => (a.toInt, c.readInt.2.rest)) =
      (Token.int? c.rest).map Parsed.plain ∧
    (c.readNumber.1.map fun x => (x, c.readNumber.2.rest)) =
      (Token.number? c.rest).map Parsed.plain := by
  refine ⟨fun a c' => ?_, fun c' => reads_readInt.eq_of_none, fun x c' => ?_,
    fun c' => reads_readNumber.eq_of_none, fun token => ?_, reads_readInt.agrees c,
    reads_readNumber.agrees c⟩
  · rw [reads_readInt.eq_some_iff fun a b => Int64.toInt_inj.1]
    refine exists_congr fun run => and_congr_right fun hpast => ?_
    rw [Token.int?_eq_some_iff]
    refine ⟨?_, fun h => ⟨run, hpast.rest, h⟩⟩
    rintro ⟨more, hmore, h⟩
    obtain rfl : run = more := List.append_cancel_right (hpast.rest.symm.trans hmore)
    exact h
  · rw [reads_readNumber.eq_some_iff Function.injective_id]
    refine exists_congr fun run => ?_
    rw [Token.number?_eq_some_iff]
    exact exists_and_left.symm
  · rw [← Option.isSome_iff_exists]
    exact Decimal.isSome_toDouble?_iff ..

end Cursor
end JsonQuery
