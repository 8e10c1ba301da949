import JsonQuery.Proofs.Slices

/-!
The readers take all that the grammar describes: a part of a query text is read as the
derivation says, and as far as it goes, if what follows can come after such a part. A loop that
joins operands is met in its midst: reading the operands so far leads to the loop with what they
are joined to.
-/

namespace JsonQuery.Grammar

open Reading

/-! ### Words and operators -/

section Words

variable {w r : List Char}

/-- A word is a literal or the name of a call, by the character after it. -/
lemma taken_primary_word (hw : IsName w) (hr : Avoids continuesName r) :
    taken (primary (w ++ r)) = (some (w, r)).bind fun word => match word.2 with
      | '(' :: u => (taken (arguments u)).map fun p => (.call (.ofList word.1) p.1, p.2)
      | rest => (keyword? word.1).map fun l => (.literal l, rest) := by
  obtain ⟨c, t, hc, hstart⟩ := hw.head
  have hname : (Token.name? (c :: (t ++ r))).map Parsed.plain = some (w, r) := by
    have := Token.cuts_name?.append hw hr
    rwa [hc, List.cons_append, ← hc] at this
  have hquote := not_quote_of_class hstart (by decide)
  have hnumber : ¬(c = '-' ∨ c.isDigit = true) := by
    rintro (hq | hq)
    · exact ne_of_class hstart (by decide) hq
    · rw [isDigit_eq_false_of_startsName hstart] at hq
      cases hq
  have htext : w ++ r = c :: (t ++ r) := by
    rw [hc]
    rfl
  rw [htext, taken_primary_other _ (ne_of_class hstart (by decide))
    (ne_of_class hstart (by decide)) (ne_of_class hstart (by decide)), if_neg hquote,
    if_neg hnumber]
  exact congrArg (fun word => Option.bind word _) hname

lemma taken_primary_call {n : List Char} (hn : IsName n) (w r : List Char) :
    taken (primary (n ++ '(' :: w ++ [')'] ++ r)) =
      (taken (arguments (w ++ ')' :: r))).map fun p => (.call (.ofList n) p.1, p.2) := by
  have htext : n ++ '(' :: w ++ [')'] ++ r = n ++ '(' :: (w ++ ')' :: r) := by simp
  rw [htext, taken_primary_word hn (avoids_cons (by decide))]
  rfl

lemma callEmpty_complete {n b : List Char} (hn : IsName n) (hb : Blanks b) (r : List Char) :
    taken (primary (n ++ '(' :: b ++ [')'] ++ r)) = some (.call (.ofList n) [], r) := by
  have hclose : skipBlanks (b ++ ')' :: r) = ')' :: r := by
    rw [hb.skipBlanks_append, skipBlanks_cons (by decide)]
  rw [taken_primary_call hn, taken_arguments, hclose]
  rfl

/-- A call with arguments is not closed at once. -/
lemma taken_arguments_of_startsOperand (hw : StartsOperand w) :
    taken (arguments (w ++ r)) = taken (moreArguments (w ++ r)) := by
  have hne := (hw.append r).skipBlanks_ne (d := ')') (by decide)
  rw [taken_arguments]
  split
  · rename_i t ht
    exact absurd ht (hne t)
  · exact taken_moreArguments_skipBlanks (w ++ r)

lemma keyword_complete {l : Literal} (hw : IsName w) (hl : keyword? w = some l)
    (hr : Ends operandStops r) : taken (primary (w ++ r)) = some (.literal l, r) := by
  rw [taken_primary_word hw (hr.avoids (by decide) (by decide)), Option.bind_some]
  dsimp only
  split
  · rename_i u
    have hparen := hr '(' (by rw [skipBlanks_cons (by decide)]; rfl)
    exact absurd hparen (by decide)
  · rw [hl]
    rfl

lemma IsString.append {s : String} (h : IsString w s) (r : List Char) :
    taken (StringLiteral.read (w ++ r)) = some (s, r) :=
  StringLiteral.closes_read.cuts.append h fun _ _ => rfl

lemma string_complete {s : String} (h : IsString w s) (r : List Char) :
    taken (primary (w ++ r)) = some (.literal (.string s), r) := by
  obtain ⟨c, t, hw, hc⟩ := h.head
  have hread := h.append r
  rw [hw, List.cons_append] at hread
  have hne : c ≠ '(' ∧ c ≠ '$' ∧ c ≠ '@' := by
    rcases hc with rfl | rfl <;> decide
  rw [hw, List.cons_append, taken_primary_other _ hne.1 hne.2.1 hne.2.2, if_pos hc, hread]
  rfl

lemma number_complete {x : Double} (h : IsNumber w x) (hr : Ends operandStops r) :
    taken (primary (w ++ r)) = some (.literal (.number (.finite x)), r) := by
  obtain ⟨c, t, hw, hc⟩ := h.head
  have hread := Token.cuts_number?.append h (hr.avoids (by decide) (by decide))
  rw [hw, List.cons_append] at hread
  have hquote := not_quote_of_class hc (by decide)
  have hbegins : c = '-' ∨ c.isDigit = true := by simpa [beginsNumber] using hc
  rw [hw, List.cons_append, taken_primary_other _ (ne_of_class hc (by decide))
    (ne_of_class hc (by decide)) (ne_of_class hc (by decide)), if_neg hquote, if_pos hbegins,
    hread]
  rfl

lemma comparison?_of_ends (hr : Ends conjunctStops r) :
    Token.comparison? (skipBlanks r) = none := by
  have h : ∀ c ∉ conjunctStops, ∀ t, skipBlanks r ≠ c :: t := fun c hc => hr.skipBlanks_ne hc
  generalize skipBlanks r = s at h ⊢
  unfold Token.comparison?
  split
  · exact absurd rfl (h '=' (by decide) _)
  · exact absurd rfl (h '!' (by decide) _)
  · exact absurd rfl (h '<' (by decide) _)
  · exact absurd rfl (h '>' (by decide) _)
  · exact absurd rfl (h '<' (by decide) _)
  · exact absurd rfl (h '>' (by decide) _)
  · rfl

/-- An operator is read as written, since no operand begins with `=`. -/
lemma comparison?_append {op : Operator} (hop : op.isComparison = true)
    (hw : StartsOperand w) :
    (Token.comparison? (op.symbol.toList ++ (w ++ r))).map Parsed.plain = some (op, w ++ r) := by
  have hne : ∀ t, w ++ r ≠ '=' :: t := by
    intro t ht
    refine (hw.append r).skipBlanks_ne (d := '=') (by decide) t ?_
    rw [ht, skipBlanks_cons (by decide)]
  cases op with
  | or => cases hop
  | and => cases hop
  | equal => simp [Operator.symbol, Token.comparison?, Parsed.plain]
  | notEqual => simp [Operator.symbol, Token.comparison?, Parsed.plain]
  | lessEqual => simp [Operator.symbol, Token.comparison?, Parsed.plain]
  | greaterEqual => simp [Operator.symbol, Token.comparison?, Parsed.plain]
  | less =>
    have hsymbol : Operator.less.symbol.toList = ['<'] := by simp [Operator.symbol]
    rw [hsymbol, List.cons_append, List.nil_append, Token.comparison?]
    · rfl
    · exact hne
  | greater =>
    have hsymbol : Operator.greater.symbol.toList = ['>'] := by simp [Operator.symbol]
    rw [hsymbol, List.cons_append, List.nil_append, Token.comparison?]
    · rfl
    · exact hne

end Words

/-! ### Filters and segments -/

section Loops

variable {r : List Char}

lemma moreAlternatives_skipBlanks (f : Filter) (r : List Char) :
    taken (moreAlternatives f (skipBlanks r)) = taken (moreAlternatives f r) := by
  rw [taken_moreAlternatives, taken_moreAlternatives f r, skipBlanks_skipBlanks]

lemma moreConjuncts_skipBlanks (f : Filter) (r : List Char) :
    taken (moreConjuncts f (skipBlanks r)) = taken (moreConjuncts f r) := by
  rw [taken_moreConjuncts, taken_moreConjuncts f r, skipBlanks_skipBlanks]

lemma moreAlternatives_of_ends (f : Filter) (hr : Ends closers r) :
    taken (moreAlternatives f r) = some (f, skipBlanks r) := by
  rw [taken_moreAlternatives]
  split
  · rename_i t ht
    exact absurd ht (hr.skipBlanks_ne (by decide) _)
  · rfl

lemma moreConjuncts_of_ends (f : Filter) (hr : Ends alternativeStops r) :
    taken (moreConjuncts f r) = some (f, skipBlanks r) := by
  rw [taken_moreConjuncts]
  split
  · rename_i t ht
    exact absurd ht (hr.skipBlanks_ne (by decide) _)
  · rfl

lemma moreAlternatives_append (f : Filter) (t : List Char) :
    taken (moreAlternatives f ('|' :: '|' :: t)) =
      (taken (conjunction t)).bind fun p => taken (moreAlternatives (.binary .or f p.1) p.2) := by
  rw [taken_moreAlternatives, skipBlanks_cons (by decide)]
  rfl

lemma moreConjuncts_append (f : Filter) (t : List Char) :
    taken (moreConjuncts f ('&' :: '&' :: t)) =
      (taken (comparison t)).bind fun p => taken (moreConjuncts (.binary .and f p.1) p.2) := by
  rw [taken_moreConjuncts, skipBlanks_cons (by decide)]
  rfl

end Loops

lemma taken_selector_position {w t : List Char} {c : Char} (hw : w = c :: t)
    (hc : beginsPosition c = true) (r : List Char) :
    taken (selector (w ++ r)) = taken (indexOrSlice (w ++ r)) := by
  have hquote := not_quote_of_class hc (by decide)
  rw [hw, List.cons_append, taken_selector_other _ (ne_of_class hc (by decide))
    (ne_of_class hc (by decide)), if_neg hquote]

lemma IsSegments.avoids {w r : List Char} {ss : List Segment} (h : IsSegments w ss)
    (hr : Avoids continuesName r) : Avoids continuesName (w ++ r) := by
  cases h with
  | nil => exact hr
  | @cons b w ws s ss hb h hs =>
    cases b with
    | nil =>
      obtain ⟨c, t, rfl, rfl | rfl⟩ := h.head
      · exact avoids_cons (by decide)
      · exact avoids_cons (by decide)
    | cons c b =>
      rcases isBlank_cases (hb c (by simp)) with rfl | rfl | rfl | rfl <;>
        exact avoids_cons (by decide)

lemma IsSelectors.skipBlanks_append {w : List Char} {ss : List Selector} (h : IsSelectors w ss)
    (r : List Char) : skipBlanks (w ++ r) = w ++ r := by
  obtain ⟨c, t, rfl, hc⟩ := h.head
  rw [List.cons_append, skipBlanks_cons (isBlank_eq_false (by decide) hc)]

lemma symbol_ends {op : Operator} (hop : op.isComparison = true) (t : List Char) :
    Ends operandStops (op.symbol.toList ++ t) ∧
      skipBlanks (op.symbol.toList ++ t) = op.symbol.toList ++ t := by
  cases op with
  | or => cases hop
  | and => cases hop
  | _ =>
    simp only [Operator.symbol]
    exact ⟨ends_cons (by decide) (by decide) _, skipBlanks_cons (by decide) _⟩

mutual

/-- Reading a filter leads to the loop over `||` with all of it read. -/
theorem filter_continues {w : List Char} {f : Filter} :
    IsFilter w f → ∀ r, Ends alternativeStops r →
      taken (filter (w ++ r)) = taken (moreAlternatives f r)
  | .one h, r, hr => by
    rw [taken_filter, conjunction_continues h r (hr.mono (by decide)), moreConjuncts_of_ends f hr,
      Option.bind_some, moreAlternatives_skipBlanks]
  | @IsFilter.or v w f g h h', r, hr => by
    have hbar : Ends alternativeStops ('|' :: '|' :: (w ++ r)) :=
      ends_cons (by decide) (by decide) _
    rw [List.append_assoc, List.cons_append, List.cons_append, filter_continues h _ hbar,
      moreAlternatives_append, conjunction_continues h' r (hr.mono (by decide)),
      moreConjuncts_of_ends g hr, Option.bind_some, moreAlternatives_skipBlanks]

theorem conjunction_continues {w : List Char} {f : Filter} :
    IsConjunction w f → ∀ r, Ends conjunctStops r →
      taken (conjunction (w ++ r)) = taken (moreConjuncts f r)
  | .one h, r, hr => by
    rw [taken_conjunction, comparison_complete h r hr, Option.bind_some, moreConjuncts_skipBlanks]
  | @IsConjunction.and v w f g h h', r, hr => by
    have hamp : Ends conjunctStops ('&' :: '&' :: (w ++ r)) :=
      ends_cons (by decide) (by decide) _
    rw [List.append_assoc, List.cons_append, List.cons_append, conjunction_continues h _ hamp,
      moreConjuncts_append, comparison_complete h' r hr, Option.bind_some,
      moreConjuncts_skipBlanks]

theorem comparison_complete {w : List Char} {f : Filter} :
    IsComparison w f → ∀ r, Ends conjunctStops r →
      taken (comparison (w ++ r)) = some (f, skipBlanks r)
  | .one h, r, hr => by
    obtain ⟨r', hread, hr'⟩ := operand_complete h r (hr.mono (by decide))
    rw [taken_comparison, hread, Option.bind_some]
    dsimp only
    rw [hr', comparison?_of_ends hr]
    rfl
  | @IsComparison.compare v w op f g hop h h', r, hr => by
    have hsymbol : Ends operandStops (op.symbol.toList ++ (w ++ r)) ∧
        skipBlanks (op.symbol.toList ++ (w ++ r)) = op.symbol.toList ++ (w ++ r) :=
      symbol_ends hop _
    obtain ⟨s, hleft, hs⟩ := operand_complete h _ hsymbol.1
    obtain ⟨r', hright, hr'⟩ := operand_complete h' r (hr.mono (by decide))
    rw [List.append_assoc, List.append_assoc, taken_comparison, hleft, Option.bind_some]
    dsimp only
    rw [hs, hsymbol.2, comparison?_append hop h'.head]
    dsimp only
    rw [hright, Option.bind_some]
    dsimp only
    rw [hr', comparison?_of_ends hr]
    rfl

theorem operand_complete {w : List Char} {f : Filter} :
    IsOperand w f → ∀ r, Ends operandStops r →
      ∃ r', taken (operand (w ++ r)) = some (f, r') ∧ skipBlanks r' = skipBlanks r
  | @IsOperand.not b w f hb h, r, hr => by
    obtain ⟨r', hread, hr'⟩ := operand_complete h r hr
    have hskip : skipBlanks (b ++ '!' :: w ++ r) = '!' :: (w ++ r) := by
      rw [List.append_assoc, hb.skipBlanks_append, List.cons_append, skipBlanks_cons (by decide)]
    refine ⟨r', ?_, hr'⟩
    rw [taken_operand, hskip]
    change (taken (operand (w ++ r))).map _ = _
    rw [hread]
    rfl
  | @IsOperand.primary b w b' f hb h hb', r, hr => by
    obtain ⟨c, t, hw, hc⟩ := h.head
    have hskip : skipBlanks (b ++ w ++ b' ++ r) = w ++ (b' ++ r) := by
      rw [List.append_assoc, List.append_assoc, hb.skipBlanks_append, hw, List.cons_append,
        skipBlanks_cons (isBlank_eq_false (by decide) hc)]
    refine ⟨b' ++ r, ?_, hb'.skipBlanks_append r⟩
    rw [taken_operand, hskip]
    split
    · rename_i u hu
      rw [hw] at hu
      exact absurd (List.cons.inj hu).1 (ne_of_class hc (by decide))
    · exact primary_complete h (b' ++ r) (hr.append_left hb')

theorem primary_complete {w : List Char} {f : Filter} :
    IsPrimary w f → ∀ r, Ends operandStops r → taken (primary (w ++ r)) = some (f, r)
  | @IsPrimary.parens w f h, r, _ => by
    have hclose : Ends closers (')' :: r) := ends_cons (by decide) (by decide) _
    have htext : '(' :: w ++ [')'] ++ r = '(' :: (w ++ ')' :: r) := by simp
    rw [htext, taken_primary_parens, filter_continues h _ (hclose.mono (by decide)),
      moreAlternatives_of_ends f hclose, Option.bind_some]
    dsimp only
    rw [skipBlanks_skipBlanks, skipBlanks_cons (by decide)]
    rfl
  | .string h, r, _ => string_complete h r
  | .number h, r, hr => number_complete h hr
  | .wordTrue, r, hr => keyword_complete rfl rfl hr
  | .wordFalse, r, hr => keyword_complete rfl rfl hr
  | .wordNull, r, hr => keyword_complete rfl rfl hr
  | @IsPrimary.query w origin ss h, r, hr => by
    rw [List.cons_append, taken_primary_query, segments_complete h r hr]
    rfl
  | .callEmpty hn hb, r, _ => callEmpty_complete hn hb r
  | .call hn h, r, _ => by
    rw [taken_primary_call hn, taken_arguments_of_startsOperand h.head, arguments_complete h r]
    rfl

theorem arguments_complete {w : List Char} {args : List Filter} :
    IsArguments w args → ∀ r, taken (moreArguments (w ++ ')' :: r)) = some (args, r)
  | @IsArguments.one w f h, r => by
    have hclose : Ends closers (')' :: r) := ends_cons (by decide) (by decide) _
    rw [taken_moreArguments, filter_continues h _ (hclose.mono (by decide)),
      moreAlternatives_of_ends f hclose, Option.bind_some]
    dsimp only
    rw [skipBlanks_skipBlanks, skipBlanks_cons (by decide)]
    rfl
  | @IsArguments.cons w ws f fs h hs, r => by
    have hcomma : Ends closers (',' :: (ws ++ ')' :: r)) := ends_cons (by decide) (by decide) _
    rw [List.append_assoc, List.cons_append, taken_moreArguments,
      filter_continues h _ (hcomma.mono (by decide)), moreAlternatives_of_ends f hcomma,
      Option.bind_some]
    dsimp only
    rw [skipBlanks_skipBlanks, skipBlanks_cons (by decide)]
    change (taken (moreArguments (ws ++ ')' :: r))).map _ = _
    rw [arguments_complete hs r]
    rfl

theorem segments_complete {w : List Char} {ss : List Segment} :
    IsSegments w ss → ∀ r, Ends operandStops r → taken (segments (w ++ r)) = some (ss, r)
  | .nil, r, hr => by
    have habsent : takenSegment (segment? (skipBlanks r)) = some none :=
      takenSegment_absent (hr.skipBlanks_ne (by decide)) (hr.skipBlanks_ne (by decide))
    rw [List.nil_append, taken_segments, habsent]
    rfl
  | @IsSegments.cons b w ws s ss hb h hs, r, hr => by
    have hskip : skipBlanks (b ++ w ++ ws ++ r) = w ++ (ws ++ r) := by
      obtain ⟨c, t, rfl, rfl | rfl⟩ := h.head <;>
        rw [List.append_assoc, List.append_assoc, hb.skipBlanks_append, List.cons_append,
          skipBlanks_cons (by decide)]
    have hnext : Avoids continuesName (ws ++ r) :=
      hs.avoids (hr.avoids (by decide) (by decide))
    rw [taken_segments, hskip, segment_complete h _ hnext, Option.bind_some]
    dsimp only
    rw [segments_complete hs r hr]
    rfl

theorem segment_complete {w : List Char} {s : Segment} :
    IsSegment w s → ∀ r, Avoids continuesName r →
      takenSegment (segment? (w ++ r)) = some (some (s, r))
  | @IsSegment.child w x h, r, hr => by
    obtain ⟨c, t, hw, hdot, -⟩ := h.head
    have hne : ∀ u, w ++ r ≠ '.' :: u := append_ne_cons hw hdot r
    rw [List.cons_append, takenSegment_child hne, shorthand_complete h hr]
    rfl
  | @IsSegment.descendant w x h, r, hr => by
    obtain ⟨c, t, hw, -, hbracket⟩ := h.head
    have hne : ∀ u, w ++ r ≠ '[' :: u := append_ne_cons hw hbracket r
    rw [List.cons_append, List.cons_append, takenSegment_descendant hne, shorthand_complete h hr]
    rfl
  | @IsSegment.bracketed b w ss hb h, r, _ => by
    have htext : '[' :: b ++ w ++ [']'] ++ r = '[' :: (b ++ (w ++ ']' :: r)) := by simp
    rw [htext, takenSegment_bracketed, hb.skipBlanks_append, h.skipBlanks_append,
      selectors_complete h r]
    rfl
  | @IsSegment.descendantBracketed b w ss hb h, r, _ => by
    have htext : '.' :: '.' :: '[' :: b ++ w ++ [']'] ++ r =
        '.' :: '.' :: '[' :: (b ++ (w ++ ']' :: r)) := by simp
    rw [htext, takenSegment_descendantBracketed, hb.skipBlanks_append, h.skipBlanks_append,
      selectors_complete h r]
    rfl

theorem selectors_complete {w : List Char} {ss : List Selector} :
    IsSelectors w ss → ∀ r, taken (selectors (w ++ ']' :: r)) = some (ss, r)
  | @IsSelectors.one w b x h hb, r => by
    have hclose : Ends (partStops false) (b ++ ']' :: r) :=
      (ends_cons (by decide) (by decide) r).append_left hb
    obtain ⟨r', hread, hr'⟩ := selector_complete h _ hclose
    rw [hb.skipBlanks_append, skipBlanks_cons (by decide)] at hr'
    rw [List.append_assoc, taken_selectors, hread, Option.bind_some]
    dsimp only
    rw [hr']
    rfl
  | @IsSelectors.cons w b b' ws x ss h hb hb' hs, r => by
    have hcomma : Ends (partStops false) (b ++ ',' :: (b' ++ (ws ++ ']' :: r))) :=
      (ends_cons (by decide) (by decide) _).append_left hb
    obtain ⟨r', hread, hr'⟩ := selector_complete h _ hcomma
    rw [hb.skipBlanks_append, skipBlanks_cons (by decide)] at hr'
    have htext : w ++ b ++ ',' :: b' ++ ws ++ ']' :: r =
        w ++ (b ++ ',' :: (b' ++ (ws ++ ']' :: r))) := by simp
    rw [htext, taken_selectors, hread, Option.bind_some]
    dsimp only
    rw [hr']
    change (taken (selectors (skipBlanks (b' ++ (ws ++ ']' :: r))))).map _ = _
    rw [hb'.skipBlanks_append, hs.skipBlanks_append, selectors_complete hs r]
    rfl

theorem selector_complete {w : List Char} {x : Selector} :
    IsSelector w x → ∀ r, Ends (partStops false) r →
      ∃ r', taken (selector (w ++ r)) = some (x, r') ∧ skipBlanks r' = skipBlanks r
  | .wildcard, r, _ => ⟨r, taken_selector_wildcard r, rfl⟩
  | @IsSelector.name w key h, r, _ => by
    obtain ⟨c, t, hw, hc⟩ := h.head
    have hread := h.append r
    rw [hw, List.cons_append] at hread
    have hne : c ≠ '*' ∧ c ≠ '?' := by
      rcases hc with rfl | rfl <;> decide
    refine ⟨r, ?_, rfl⟩
    rw [hw, List.cons_append, taken_selector_other _ hne.1 hne.2, if_pos hc, hread]
    rfl
  | @IsSelector.filter w f h, r, hr => by
    refine ⟨skipBlanks r, ?_, skipBlanks_skipBlanks r⟩
    have hends : Ends closers r := hr.mono (by decide)
    rw [List.cons_append, taken_selector_filter, taken_filter_skipBlanks,
      filter_continues h r (hends.mono (by decide)), moreAlternatives_of_ends f hends]
    rfl
  | @IsSelector.index w n h, r, hr => by
    obtain ⟨c, t, hw, hc⟩ := h.head
    refine ⟨skipBlanks r, ?_, skipBlanks_skipBlanks r⟩
    rw [taken_selector_position hw (beginsPosition_of_number hc), index_complete h hr]
  | @IsSelector.slice w s h, r, hr => by
    obtain ⟨c, t, hw, hc⟩ := h.head
    obtain ⟨r', hread, hr'⟩ := slice_complete h hr
    exact ⟨r', by rw [taken_selector_position hw hc, hread], hr'⟩

end

end JsonQuery.Grammar
