import JsonQuery.Proofs.Blanks
import JsonQuery.Proofs.Spellings

/-!
The readers of queries without the bounds that make them end: one equation for each of them,
which says what it takes from a text in terms of what the others take.
-/

namespace JsonQuery.Reading

/-! ### Filters -/

lemma taken_filter (s : List Char) :
    taken (filter s) = (taken (conjunction s)).bind fun p => taken (moreAlternatives p.1 p.2) := by
  rw [filter]
  exact taken_bind fun p => taken_bind_widen fun q => rfl

lemma taken_moreAlternatives (left : Filter) (s : List Char) :
    taken (moreAlternatives left s) = match skipBlanks s with
      | '|' :: '|' :: t =>
        (taken (conjunction t)).bind fun p => taken (moreAlternatives (.binary .or left p.1) p.2)
      | t => some (left, t) := by
  rw [moreAlternatives]
  split
  · rename_i t h
    simp only [h]
    exact taken_bind fun p => taken_bind_widen fun q => rfl
  · rename_i hne
    split
    · rename_i t h
      exact absurd h (hne t)
    · rfl

lemma taken_conjunction (s : List Char) :
    taken (conjunction s) = (taken (comparison s)).bind fun p => taken (moreConjuncts p.1 p.2) := by
  rw [conjunction]
  exact taken_bind fun p => taken_bind_widen fun q => rfl

lemma taken_moreConjuncts (left : Filter) (s : List Char) :
    taken (moreConjuncts left s) = match skipBlanks s with
      | '&' :: '&' :: t =>
        (taken (comparison t)).bind fun p => taken (moreConjuncts (.binary .and left p.1) p.2)
      | t => some (left, t) := by
  rw [moreConjuncts]
  split
  · rename_i t h
    simp only [h]
    exact taken_bind fun p => taken_bind_widen fun q => rfl
  · rename_i hne
    split
    · rename_i t h
      exact absurd h (hne t)
    · rfl

lemma taken_comparison (s : List Char) :
    taken (comparison s) = (taken (operand s)).bind fun left =>
      match (Token.comparison? (skipBlanks left.2)).map Parsed.plain with
      | none => some (left.1, skipBlanks left.2)
      | some op => (taken (operand op.2)).bind fun right =>
        if (Token.comparison? (skipBlanks right.2)).isSome then none
        else some (.binary op.1 left.1 right.1, skipBlanks right.2) := by
  rw [comparison]
  refine taken_bind fun left => ?_
  simp only [Parsed.plain]
  rcases Token.comparison? (skipBlanks left.rest) with _ | op
  · rfl
  · refine taken_bind fun right => ?_
    dsimp only [Parsed.plain]
    split_ifs
    · rfl
    · rfl

lemma taken_operand (s : List Char) :
    taken (operand s) = match skipBlanks s with
      | '!' :: t => (taken (operand t)).map fun p => (.not p.1, p.2)
      | t => taken (primary t) := by
  rw [operand]
  split
  · rename_i t h
    simp only [h]
    exact taken_bind_pure fun p => rfl
  · rename_i hne
    split
    · rename_i t h
      exact absurd h (hne t)
    · exact taken_bind_widen fun p => rfl

lemma taken_numberOperand (s : List Char) :
    taken (numberOperand s) = ((Token.number? s).map Parsed.plain).map fun p =>
      (.literal (.number (.finite p.1)), p.2) := by
  rw [numberOperand]
  rcases Token.number? s with _ | x <;> rfl

lemma taken_primary_parens (t : List Char) :
    taken (primary ('(' :: t)) = (taken (filter t)).bind fun p => match skipBlanks p.2 with
      | ')' :: u => some (p.1, u)
      | _ => none := by
  rw [primary]
  refine taken_bind fun p => ?_
  dsimp only [Parsed.plain]
  split
  · rename_i u h
    simp only [h]
    rfl
  · rename_i hne
    split
    · rename_i u h
      exact absurd h (hne u)
    · rfl

lemma taken_primary_query (origin : Origin) (t : List Char) :
    taken (primary (origin.char :: t)) =
      (taken (segments t)).map fun p => (.query origin p.1, p.2) := by
  cases origin <;> rw [Origin.char, primary] <;> exact taken_bind_pure fun p => rfl

/-- The other operands begin with a quote, with the minus sign or a digit, or with a word. -/
lemma taken_primary_other {c : Char} (t : List Char) (hparen : c ≠ '(') (hroot : c ≠ '$')
    (hcurrent : c ≠ '@') :
    taken (primary (c :: t)) =
      if c = '\'' ∨ c = '"' then
        (taken (StringLiteral.read (c :: t))).map fun p => (.literal (.string p.1), p.2)
      else if c = '-' ∨ c.isDigit = true then
        ((Token.number? (c :: t)).map Parsed.plain).map fun p =>
          (.literal (.number (.finite p.1)), p.2)
      else
        ((Token.name? (c :: t)).map Parsed.plain).bind fun word => match word.2 with
          | '(' :: u => (taken (arguments u)).map fun p => (.call (.ofList word.1) p.1, p.2)
          | rest => (keyword? word.1).map fun l => (.literal l, rest) := by
  rw [primary]
  · split_ifs
    · exact taken_map (g := fun p => (Filter.literal (.string p.1), p.2)) fun _ => rfl
    · exact taken_numberOperand _
    · rcases Token.name? (c :: t) with _ | word
      · rfl
      · dsimp only [Option.map_some, Option.bind_some, Parsed.plain]
        split
        · rename_i u h
          simp only [h]
          exact taken_bind_pure fun p => rfl
        · split
          · rename_i l hl
            simp only [hl]
            rfl
          · rename_i hl
            simp only [hl]
            rfl
  · exact hparen
  · exact hroot
  · exact hcurrent

lemma taken_arguments (s : List Char) :
    taken (arguments s) = match skipBlanks s with
      | ')' :: t => some ([], t)
      | t => taken (moreArguments t) := by
  rw [arguments]
  split
  · rename_i t h
    simp only [h]
    rfl
  · rename_i hne
    split
    · rename_i t h
      exact absurd h (hne t)
    · exact taken_bind_widen fun p => rfl

lemma taken_moreArguments (s : List Char) :
    taken (moreArguments s) = (taken (filter s)).bind fun p => match skipBlanks p.2 with
      | ')' :: t => some ([p.1], t)
      | ',' :: t => (taken (moreArguments t)).map fun q => (p.1 :: q.1, q.2)
      | _ => none := by
  rw [moreArguments]
  refine taken_bind fun p => ?_
  dsimp only [Parsed.plain]
  split
  · rename_i t h
    simp only [h]
    rfl
  · rename_i t h
    simp only [h]
    exact taken_bind_pure fun q => rfl
  · rename_i hclose hcomma
    split
    · rename_i t h
      exact absurd h (hclose t)
    · rename_i t h
      exact absurd h (hcomma t)
    · rfl

/-! ### Segments -/

/-- What is taken where a segment may be absent. -/
def takenSegment {n : Nat} (x : Except Failure (Option (Parsed Segment n))) :
    Option (Option (Segment × List Char)) :=
  x.toOption.map (Option.map Parsed.plain)

lemma taken_segments (s : List Char) :
    taken (segments s) = (takenSegment (segment? (skipBlanks s))).bind fun first => match first with
      | none => some ([], s)
      | some p => (taken (segments p.2)).map fun q => (p.1 :: q.1, q.2) := by
  rw [segments]
  rcases segment? (skipBlanks s) with e | _ | p
  · rfl
  · rfl
  · exact taken_bind_pure fun q => rfl

lemma taken_shorthand_wildcard (t : List Char) :
    taken (shorthand ('*' :: t)) = some (.wildcard, t) := rfl

lemma taken_shorthand_name {s : List Char} (hs : ∀ t, s ≠ '*' :: t) :
    taken (shorthand s) = ((Token.name? s).map Parsed.plain).map fun p =>
      (.name (.ofList p.1), p.2) := by
  rw [shorthand]
  · rcases Token.name? s with _ | n <;> rfl
  · exact hs

lemma takenSegment_bind {n m : Nat} {α : Type} {x : Except Failure (Parsed α n)}
    {f : Parsed α n → Parsed Segment m} {g : α × List Char → Segment × List Char}
    (h : ∀ p, (f p).plain = g p.plain) :
    takenSegment (x >>= fun p => pure (some (f p))) = (taken x).map fun p => some (g p) := by
  cases x with
  | error e => rfl
  | ok p => exact congrArg (some ∘ some) (h p)

lemma takenSegment_descendantBracketed (t : List Char) :
    takenSegment (segment? ('.' :: '.' :: '[' :: t)) =
      (taken (selectors (skipBlanks t))).map fun p => some (⟨true, p.1⟩, p.2) := by
  rw [segment?]
  exact takenSegment_bind fun p => rfl

lemma takenSegment_descendant {t : List Char} (ht : ∀ u, t ≠ '[' :: u) :
    takenSegment (segment? ('.' :: '.' :: t)) =
      (taken (shorthand t)).map fun p => some (⟨true, [p.1]⟩, p.2) := by
  rw [segment?]
  · exact takenSegment_bind (g := fun p => (⟨true, [p.1]⟩, p.2)) fun _ => rfl
  · exact ht

lemma takenSegment_child {t : List Char} (ht : ∀ u, t ≠ '.' :: u) :
    takenSegment (segment? ('.' :: t)) =
      (taken (shorthand t)).map fun p => some (⟨false, [p.1]⟩, p.2) := by
  rw [segment?]
  · exact takenSegment_bind (g := fun p => (⟨false, [p.1]⟩, p.2)) fun _ => rfl
  · exact fun u => ht _
  · exact ht

lemma takenSegment_bracketed (t : List Char) :
    takenSegment (segment? ('[' :: t)) =
      (taken (selectors (skipBlanks t))).map fun p => some (⟨false, p.1⟩, p.2) := by
  rw [segment?]
  exact takenSegment_bind fun p => rfl

lemma takenSegment_absent {s : List Char} (hdot : ∀ t, s ≠ '.' :: t)
    (hbracket : ∀ t, s ≠ '[' :: t) : takenSegment (segment? s) = some none := by
  rw [segment?]
  · rfl
  · exact fun u => hdot _
  · exact fun u => hdot _
  · exact hdot
  · exact hbracket

/-! ### Selectors -/

lemma taken_selectors (s : List Char) :
    taken (selectors s) = (taken (selector s)).bind fun p => match skipBlanks p.2 with
      | ']' :: t => some ([p.1], t)
      | ',' :: t => (taken (selectors (skipBlanks t))).map fun q => (p.1 :: q.1, q.2)
      | _ => none := by
  rw [selectors]
  refine taken_bind fun p => ?_
  dsimp only [Parsed.plain]
  split
  · rename_i t h
    simp only [h]
    rfl
  · rename_i t h
    simp only [h]
    exact taken_bind_pure fun q => rfl
  · rename_i hclose hcomma
    split
    · rename_i t h
      exact absurd h (hclose t)
    · rename_i t h
      exact absurd h (hcomma t)
    · rfl

lemma taken_selector_nil : taken (selector []) = none := by
  rw [selector]
  rfl

lemma taken_selector_wildcard (t : List Char) :
    taken (selector ('*' :: t)) = some (.wildcard, t) := by
  rw [selector]
  rfl

lemma taken_selector_filter (t : List Char) :
    taken (selector ('?' :: t)) =
      (taken (filter (skipBlanks t))).map fun p => (.filter p.1, p.2) := by
  rw [selector]
  exact taken_bind_pure fun p => rfl

lemma taken_selector_other {c : Char} (t : List Char) (hwildcard : c ≠ '*') (hfilter : c ≠ '?') :
    taken (selector (c :: t)) =
      if c = '\'' ∨ c = '"' then
        (taken (StringLiteral.read (c :: t))).map fun p => (.name p.1, p.2)
      else taken (indexOrSlice (c :: t)) := by
  rw [selector]
  · split_ifs
    · exact taken_map (g := fun p => (Selector.name p.1, p.2)) fun _ => rfl
    · rfl
  · exact hwildcard
  · exact hfilter

lemma taken_slicePart (colonEnds : Bool) (s : List Char) :
    taken (slicePart colonEnds s) = if endsPart colonEnds s then some (none, s)
      else ((Token.int? s).map Parsed.plain).map fun n => (some n.1, n.2) := by
  rw [slicePart]
  split_ifs
  · rfl
  · rcases Token.int? s with _ | n <;> rfl

lemma taken_sliceStep (start stop : Option Int) (s : List Char) :
    taken (sliceStep start stop s) = match skipBlanks s with
      | ':' :: t => (taken (slicePart false (skipBlanks t))).map fun p =>
        (.slice ⟨start, stop, p.1.getD 1⟩, p.2)
      | t => some (.slice ⟨start, stop, 1⟩, t) := by
  rw [sliceStep]
  split
  · rename_i t h
    simp only [h]
    exact taken_bind_pure fun p => rfl
  · rename_i hne
    split
    · rename_i t h
      exact absurd h (hne t)
    · rfl

lemma taken_sliceAfterColon (start : Option Int) (s : List Char) :
    taken (sliceAfterColon start s) = (taken (slicePart true (skipBlanks s))).bind fun p =>
      taken (sliceStep start p.1 p.2) := by
  rw [sliceAfterColon]
  exact taken_bind fun p => taken_bind_widen fun q => rfl

lemma taken_indexOrSlice_colon (t : List Char) :
    taken (indexOrSlice (':' :: t)) = taken (sliceAfterColon none t) := by
  rw [indexOrSlice]
  exact taken_map_widen fun p => rfl

lemma taken_indexOrSlice_int {s : List Char} (hs : ∀ t, s ≠ ':' :: t) :
    taken (indexOrSlice s) = ((Token.int? s).map Parsed.plain).bind fun n =>
      match skipBlanks n.2 with
      | ':' :: t => taken (sliceAfterColon (some n.1) t)
      | t => some (.index n.1, t) := by
  rw [indexOrSlice]
  · rcases Token.int? s with _ | n
    · rfl
    · dsimp only [Option.map_some, Option.bind_some, Parsed.plain]
      split
      · rename_i t h
        simp only [h]
        exact taken_map_widen fun p => rfl
      · rename_i hne
        split
        · rename_i t h
          exact absurd h (hne t)
        · rfl
  · exact hs

/-! ### Blanks at the start

Whatever begins with an operand may begin with blanks. -/

section SkipBlanks

open Grammar

variable (s : List Char)

lemma taken_operand_skipBlanks : taken (operand (skipBlanks s)) = taken (operand s) := by
  rw [taken_operand, taken_operand s, skipBlanks_skipBlanks]

lemma taken_comparison_skipBlanks : taken (comparison (skipBlanks s)) = taken (comparison s) := by
  rw [taken_comparison, taken_operand_skipBlanks, ← taken_comparison]

lemma taken_conjunction_skipBlanks :
    taken (conjunction (skipBlanks s)) = taken (conjunction s) := by
  rw [taken_conjunction, taken_comparison_skipBlanks, ← taken_conjunction]

lemma taken_filter_skipBlanks : taken (filter (skipBlanks s)) = taken (filter s) := by
  rw [taken_filter, taken_conjunction_skipBlanks, ← taken_filter]

lemma taken_moreArguments_skipBlanks :
    taken (moreArguments (skipBlanks s)) = taken (moreArguments s) := by
  rw [taken_moreArguments, taken_filter_skipBlanks, ← taken_moreArguments]

end SkipBlanks

end JsonQuery.Reading
