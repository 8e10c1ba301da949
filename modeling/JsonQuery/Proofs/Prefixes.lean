import JsonQuery.Proofs.Parsing
import JsonQuery.Proofs.Refusals

/-!
Where queries are refused. The place that a failure names is one up to which the text could
still have become a query: brackets and parentheses that are open there can be closed, a
missing operand can be written, and a string can be ended. So a reader never goes past the
first character at which the text has gone wrong.
-/

namespace JsonQuery.Grammar

open Reading

/-! ### Parts that hold others

Where a part holds parts of other kinds, their refusal is taken to be at the right place. -/

section Parts

variable {s t r : List Char}

/-- Where an operand is missing, one can be written. -/
lemma primary_here : Stops IsPrimary r r := .here IsPrimary.wordNull

lemma parens_stops (hfilter : ∀ {u}, refused (filter t) = some u → Stops IsFilter t u)
    (h : refused (primary ('(' :: t)) = some r) : Stops IsPrimary ('(' :: t) r := by
  rw [primary] at h
  obtain h | ⟨inner, hinner, h⟩ := refused_bind h
  · exact (hfilter h).enclosed ['('] [')'] rfl fun hw => ⟨_, .parens hw⟩
  · obtain ⟨w, ht, hw⟩ := filter_sound (taken_of_eq_ok hinner)
    obtain ⟨b, hb, hrest⟩ := exists_blanks inner.rest
    dsimp only at h
    split at h
    · cases h
    · cases h
      refine .after (w := '(' :: (w ++ b)) [')'] ?_ (.parens (hw.append_blanks hb))
      rw [List.cons_append, List.append_assoc, ← hrest, ← ht]

/-- A word is refused as a whole, unless it is called. -/
lemma word_stops {c : Char} (hparen : c ≠ '(') (hroot : c ≠ '$') (hcurrent : c ≠ '@')
    (harguments : ∀ {u r}, u.length ≤ t.length → refused (arguments u) = some r →
      Stops IsArguments u r)
    (h : refused (primary (c :: t)) = some r) : Stops IsPrimary (c :: t) r := by
  rw [primary] at h
  · split_ifs at h with hquote hnumber
    · exact (StringLiteral.read_stops hquote (refused_map h)).imp fun hw => ⟨_, .string hw⟩
    · rw [numberOperand] at h
      split at h
      · cases h
      · cases h
        exact primary_here
    · split at h
      · cases h
        exact primary_here
      · rename_i word hword
        obtain ⟨hs, hname⟩ := isName_of_name? (congrArg (Option.map Parsed.plain) hword)
        split at h
        · -- a call
          rename_i u hu
          have hlen : u.length ≤ t.length := by
            have := word.fits
            simp only [hu, List.length_cons] at this
            omega
          refine (harguments hlen (refused_bind_pure h)).enclosed (word.value ++ ['(']) [')'] ?_ ?_
          · rw [List.append_assoc, List.singleton_append, ← hu, ← hs]
          · exact fun hw => ⟨_, by simpa using IsPrimary.call hname hw⟩
        · split at h
          · cases h
          · cases h
            exact primary_here
  · exact hparen
  · exact hroot
  · exact hcurrent

/-- Selectors in brackets are refused within them. -/
lemma brackets_stops (open' : List Char) {d : Bool}
    (hbracketed : ∀ {b w ss}, Blanks b → IsSelectors w ss →
      IsSegment (open' ++ b ++ w ++ [']']) ⟨d, ss⟩)
    (hselectors : Stops IsSelectors (skipBlanks t) r) : Stops IsSegment (open' ++ t) r := by
  obtain ⟨b, hb, ht⟩ := exists_blanks t
  refine hselectors.enclosed (open' ++ b) [']'] (by rw [List.append_assoc, ← ht]) ?_
  exact fun hw => ⟨_, hbracketed hb hw⟩

end Parts

/-! ### Filters and segments -/

mutual

theorem filter_stops {s r : List Char} (h : refused (filter s) = some r) :
    Stops IsFilter s r := by
  rw [filter] at h
  obtain h | ⟨left, hleft, h⟩ := refused_bind h
  · exact (conjunction_stops h).imp fun hw => ⟨_, .one hw⟩
  · obtain ⟨v, hs, hv⟩ := conjunction_sound (taken_of_eq_ok hleft)
    have hlen := left.fits
    rw [hs]
    exact moreAlternatives_stops (.one hv) (refused_bind_pure h)
termination_by (s.length, 6)
decreasing_by all_goals exact lex_of_le (by omega)

/-- What is refused is joined to what was read before. -/
theorem moreAlternatives_stops {v s r : List Char} {left : Filter} (hv : IsFilter v left)
    (h : refused (moreAlternatives left s) = some r) : Stops IsFilter (v ++ s) r := by
  obtain ⟨b, hb, hs⟩ := exists_blanks s
  rw [moreAlternatives] at h
  split at h
  · rename_i t ht
    have hlt := Nat.lt_of_succ_lt (length_lt_of_skipBlanks ht)
    rw [ht] at hs
    obtain h | ⟨right, hright, h⟩ := refused_bind h
    · refine (conjunction_stops h).within (v ++ b ++ ['|', '|']) (by simp [hs]) ?_
      exact fun hw => ⟨_, by simpa using (hv.append_blanks hb).or hw⟩
    · obtain ⟨u, ht', hu⟩ := conjunction_sound (taken_of_eq_ok hright)
      have hlen := right.fits
      have hstops := moreAlternatives_stops ((hv.append_blanks hb).or hu) (refused_bind_pure h)
      rw [hs, ht']
      simpa using hstops
  · cases h
termination_by (s.length, 5)
decreasing_by all_goals exact lex_of_le (by omega)

theorem conjunction_stops {s r : List Char} (h : refused (conjunction s) = some r) :
    Stops IsConjunction s r := by
  rw [conjunction] at h
  obtain h | ⟨left, hleft, h⟩ := refused_bind h
  · exact (comparison_stops h).imp fun hw => ⟨_, .one hw⟩
  · obtain ⟨v, hs, hv⟩ := comparison_sound (taken_of_eq_ok hleft)
    have hlen := left.fits
    rw [hs]
    exact moreConjuncts_stops (.one hv) (refused_bind_pure h)
termination_by (s.length, 4)
decreasing_by all_goals exact lex_of_le (by omega)

theorem moreConjuncts_stops {v s r : List Char} {left : Filter} (hv : IsConjunction v left)
    (h : refused (moreConjuncts left s) = some r) : Stops IsConjunction (v ++ s) r := by
  obtain ⟨b, hb, hs⟩ := exists_blanks s
  rw [moreConjuncts] at h
  split at h
  · rename_i t ht
    have hlt := Nat.lt_of_succ_lt (length_lt_of_skipBlanks ht)
    rw [ht] at hs
    obtain h | ⟨right, hright, h⟩ := refused_bind h
    · refine (comparison_stops h).within (v ++ b ++ ['&', '&']) (by simp [hs]) ?_
      exact fun hw => ⟨_, by simpa using (hv.append_blanks hb).and hw⟩
    · obtain ⟨u, ht', hu⟩ := comparison_sound (taken_of_eq_ok hright)
      have hlen := right.fits
      have hstops := moreConjuncts_stops ((hv.append_blanks hb).and hu) (refused_bind_pure h)
      rw [hs, ht']
      simpa using hstops
  · cases h
termination_by (s.length, 3)
decreasing_by all_goals exact lex_of_le (by omega)

/-- A second operator is refused after a comparison that could stand by itself. -/
theorem comparison_stops {s r : List Char} (h : refused (comparison s) = some r) :
    Stops IsComparison s r := by
  rw [comparison] at h
  obtain h | ⟨left, hleft, h⟩ := refused_bind h
  · -- within the left operand
    exact (operand_stops h).imp fun hw => ⟨_, .one hw⟩
  · obtain ⟨v, hs, hv⟩ := operand_sound (taken_of_eq_ok hleft)
    obtain ⟨b, hb, hrest⟩ := exists_blanks left.rest
    dsimp only at h
    split at h
    · cases h
    · rename_i op hop
      obtain ⟨hcomp, ht⟩ := Token.comparison?_eq (congrArg (Option.map Parsed.plain) hop)
      have hlen := op.fits
      have hlen' := length_skipBlanks_le left.rest
      have hlen'' := left.fits
      rw [ht] at hrest
      obtain h | ⟨right, hright, h⟩ := refused_bind h
      · -- within the right operand
        refine (operand_stops h).within (v ++ b ++ op.value.symbol.toList) ?_ ?_
        · rw [List.append_assoc, List.append_assoc, ← hrest, ← hs]
        · exact fun hw => ⟨_, .compare hcomp (hv.append_blanks hb) hw⟩
      · obtain ⟨w, ht', hw⟩ := operand_sound (taken_of_eq_ok hright)
        obtain ⟨b', hb', hrest'⟩ := exists_blanks right.rest
        split_ifs at h
        · -- at a second operator
          cases h
          have hwhole : IsComparison (v ++ b ++ op.value.symbol.toList ++ (w ++ b')) _ :=
            .compare hcomp (hv.append_blanks hb) (hw.append_blanks hb')
          refine .behind ?_ hwhole
          simp only [List.append_assoc]
          rw [← hrest', ← ht', ← hrest, ← hs]
        · cases h
termination_by (s.length, 2)
decreasing_by all_goals exact lex_of_le (by omega)

theorem operand_stops {s r : List Char} (h : refused (operand s) = some r) :
    Stops IsOperand s r := by
  obtain ⟨b, hb, hs⟩ := exists_blanks s
  rw [operand] at h
  split at h
  · rename_i t ht
    have hlt := length_lt_of_skipBlanks ht
    rw [ht] at hs
    refine (operand_stops (refused_bind_pure h)).within (b ++ ['!']) (by simpa using hs) ?_
    exact fun hw => ⟨_, by simpa using IsOperand.not hb hw⟩
  · have hle := length_skipBlanks_le s
    refine (primary_stops (refused_bind_pure h)).within b hs ?_
    exact fun hw => ⟨_, by simpa using IsOperand.primary hb hw blanks_nil⟩
termination_by (s.length, 1)
decreasing_by all_goals exact lex_of_le (by omega)

theorem primary_stops {s r : List Char} (h : refused (primary s) = some r) :
    Stops IsPrimary s r := by
  rcases hs : s with _ | ⟨c, t⟩
  · rw [hs, primary] at h
    cases h
    exact primary_here
  have hlt : t.length < s.length := by simp [hs]
  rw [hs] at h
  by_cases hparen : c = '('
  · subst hparen
    exact parens_stops filter_stops h
  by_cases horigin : ∃ origin : Origin, c = origin.char
  · obtain ⟨origin, rfl⟩ := horigin
    have hsegments : refused (segments t) = some r := by
      cases origin <;> rw [Origin.char, primary] at h <;> exact refused_bind_pure h
    exact (segments_stops hsegments).within [origin.char] rfl fun hw =>
      ⟨_, .query hw⟩
  · exact word_stops hparen (fun hc => horigin ⟨.root, hc⟩) (fun hc => horigin ⟨.current, hc⟩)
      (fun hu => arguments_stops) h
termination_by (s.length, 0)
decreasing_by all_goals exact lex_of_le (by omega)

theorem arguments_stops {s r : List Char} (h : refused (arguments s) = some r) :
    Stops IsArguments s r := by
  obtain ⟨b, hb, hs⟩ := exists_blanks s
  rw [arguments] at h
  split at h
  · cases h
  · have hle := length_skipBlanks_le s
    exact (moreArguments_stops (refused_bind_pure h)).within b hs fun hw =>
      ⟨_, hw.prepend_blanks hb⟩
termination_by (s.length, 8)
decreasing_by all_goals exact lex_of_le (by omega)

theorem moreArguments_stops {s r : List Char} (h : refused (moreArguments s) = some r) :
    Stops IsArguments s r := by
  rw [moreArguments] at h
  obtain h | ⟨arg, harg, h⟩ := refused_bind h
  · exact (filter_stops h).imp fun hw => ⟨_, .one hw⟩
  · obtain ⟨w, hs, hw⟩ := filter_sound (taken_of_eq_ok harg)
    obtain ⟨b, hb, hrest⟩ := exists_blanks arg.rest
    have hlen := arg.fits
    dsimp only at h
    split at h
    · cases h
    · rename_i t ht
      have hlt := length_lt_of_skipBlanks ht
      rw [ht] at hrest
      refine (moreArguments_stops (refused_bind_pure h)).within (w ++ b ++ [',']) ?_ ?_
      · rw [List.append_assoc, List.append_assoc, List.singleton_append, ← hrest, ← hs]
      · exact fun hw' => ⟨_, by simpa using IsArguments.cons (hw.append_blanks hb) hw'⟩
    · -- behind an argument, where neither comma nor parenthesis follows
      cases h
      exact .behind (by rw [List.append_assoc, ← hrest, ← hs]) (.one (hw.append_blanks hb))
termination_by (s.length, 7)
decreasing_by all_goals exact lex_of_le (by omega)

theorem segments_stops {s r : List Char} (h : refused (segments s) = some r) :
    Stops IsSegments s r := by
  obtain ⟨b, hb, hs⟩ := exists_blanks s
  have hle := length_skipBlanks_le s
  rw [segments] at h
  obtain h | ⟨first, hfirst, h⟩ := refused_bind h
  · exact (segment_stops h).within b hs fun hw => ⟨_, by simpa using IsSegments.cons hb hw .nil⟩
  · split at h
    · cases h
    · rename_i p
      have htaken : takenSegment (segment? (skipBlanks s)) = some (some (p.value, p.rest)) := by
        rw [hfirst]
        rfl
      obtain ⟨v, hv, hsegment⟩ := segment_sound htaken
      have hlen := p.fits
      rw [hv] at hs
      refine (segments_stops (refused_bind_pure h)).within (b ++ v) (by simpa using hs) ?_
      exact fun hw => ⟨_, .cons hb hsegment hw⟩
termination_by (s.length, 2)
decreasing_by all_goals exact lex_of_le (by omega)

theorem segment_stops {s r : List Char} (h : refused (segment? s) = some r) :
    Stops IsSegment s r := by
  rw [segment?.eq_def] at h
  split at h
  · rename_i t
    have hle := length_skipBlanks_le t
    exact brackets_stops ['.', '.', '['] .descendantBracketed
      (selectors_stops (refused_bind_pure h))
  · rename_i t _
    exact (shorthand_stops (refused_bind_pure h)).within ['.', '.'] rfl fun hw =>
      ⟨_, .descendant hw⟩
  · rename_i t _ _
    exact (shorthand_stops (refused_bind_pure h)).within ['.'] rfl fun hw =>
      ⟨_, .child hw⟩
  · rename_i t
    have hle := length_skipBlanks_le t
    exact brackets_stops ['['] .bracketed (selectors_stops (refused_bind_pure h))
  · cases h
termination_by (s.length, 1)
decreasing_by all_goals exact lex_of_le (by subst_vars; simp only [List.length_cons]; omega)

theorem selectors_stops {s r : List Char} (h : refused (selectors s) = some r) :
    Stops IsSelectors s r := by
  rw [selectors] at h
  obtain h | ⟨first, hfirst, h⟩ := refused_bind h
  · exact (selector_stops h).imp fun {w x} hw => ⟨[x], by
      simpa using IsSelectors.one hw blanks_nil⟩
  · obtain ⟨w, b, hb, hs, hw⟩ := selector_sound (taken_of_eq_ok hfirst)
    have hlen := first.fits
    dsimp only at h
    split at h
    · cases h
    · rename_i t ht
      have hlt := length_lt_of_skipBlanks ht
      have hle := length_skipBlanks_le t
      obtain ⟨b', hb', ht'⟩ := exists_blanks t
      refine (selectors_stops (refused_bind_pure h)).within (w ++ b ++ ',' :: b') ?_ ?_
      · rw [ht, ht'] at hs
        simpa using hs
      · exact fun hw' => ⟨_, .cons hw hb hb' hw'⟩
    · -- behind a selector, where neither comma nor bracket follows
      cases h
      exact .behind hs (.one hw hb)
termination_by (s.length, 2)
decreasing_by all_goals exact lex_of_le (by omega)

theorem selector_stops {s r : List Char} (h : refused (selector s) = some r) :
    Stops IsSelector s r := by
  rw [selector.eq_def] at h
  split at h
  · cases h
    exact .here .wildcard
  · cases h
  · rename_i t
    obtain ⟨b, hb, ht⟩ := exists_blanks t
    have hle := length_skipBlanks_le t
    refine (filter_stops (refused_bind_pure h)).within ('?' :: b) (congrArg ('?' :: ·) ht) ?_
    exact fun hw => ⟨_, .filter (hw.prepend_blanks hb)⟩
  · split_ifs at h with hquote
    · exact (StringLiteral.read_stops hquote (refused_map h)).imp fun hw => ⟨_, .name hw⟩
    · exact indexOrSlice_stops h
termination_by (s.length, 1)
decreasing_by all_goals exact lex_of_le (by subst_vars; simp only [List.length_cons]; omega)

end

end JsonQuery.Grammar
