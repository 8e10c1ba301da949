import JsonQuery.Proofs.Slices

/-!
The readers take only what the grammar describes: where a reader takes something, the text is
the taken part and the rest, and the taken part derives what was read. Blanks that a reader
skips after an operand belong to the operand.
-/

namespace JsonQuery.Grammar

open Reading

/-! ### Filters and segments

The readers call each other on texts that get shorter, or on the same text in a fixed order. -/

lemma lex_of_le {k l m n : Nat} (h : k < l ∨ k ≤ l ∧ m < n) :
    Prod.Lex (· < ·) (· < ·) (k, m) (l, n) := by
  rw [Prod.lex_def]
  dsimp only
  omega

lemma length_le_of_eq_append {s w r : List Char} (h : s = w ++ r) : r.length ≤ s.length := by
  simp [h]

lemma length_lt_of_skipBlanks {s t : List Char} {c : Char} (h : skipBlanks s = c :: t) :
    t.length < s.length :=
  length_le_of_skipBlanks h

lemma IsSegment.length_pos {w : List Char} {s : Segment} (h : IsSegment w s) : 0 < w.length := by
  cases h <;> simp

/-! Where a part holds parts of other kinds, what is read as these is taken to be sound. -/

section Parts

variable {s t rest : List Char}

lemma parens_sound {f : Filter}
    (hfilter : ∀ {g r}, taken (filter t) = some (g, r) → ∃ w, t = w ++ r ∧ IsFilter w g)
    (h : taken (primary ('(' :: t)) = some (f, rest)) :
    ∃ w, '(' :: t = w ++ rest ∧ IsPrimary w f := by
  rw [taken_primary_parens] at h
  obtain ⟨⟨inner, r⟩, hinner, hclose⟩ := Option.bind_eq_some_iff.1 h
  dsimp only at hclose
  obtain ⟨w, hw, hf⟩ := hfilter hinner
  obtain ⟨b, hb, hr⟩ := exists_blanks r
  split at hclose
  · rename_i u hu
    cases hclose
    refine ⟨'(' :: (w ++ b) ++ [')'], ?_, .parens (hf.append_blanks hb)⟩
    rw [hw, hr, hu]
    simp
  · cases hclose

/-- A word is a literal, or else the name of a call. -/
lemma word_sound {f : Filter}
    (harguments : ∀ {u args r}, u.length < s.length → taken (arguments u) = some (args, r) →
      ∃ w, u = w ++ ')' :: r ∧ (Blanks w ∧ args = [] ∨ IsArguments w args))
    (h : (((Token.name? s).map Parsed.plain).bind fun word => match word.2 with
      | '(' :: u => (taken (arguments u)).map fun p => (Filter.call (.ofList word.1) p.1, p.2)
      | r => (keyword? word.1).map fun l => (.literal l, r)) = some (f, rest)) :
    ∃ w, s = w ++ rest ∧ IsPrimary w f := by
  obtain ⟨⟨word, r⟩, hword, hrest⟩ := Option.bind_eq_some_iff.1 h
  obtain ⟨hsplit, hname⟩ := isName_of_name? hword
  dsimp only at hrest
  split at hrest
  · -- a call
    rename_i u
    have hu : u.length < s.length := by
      simp only [hsplit, List.length_append, List.length_cons]
      omega
    obtain ⟨⟨args, r'⟩, hargs, heq⟩ := Option.map_eq_some_iff.1 hrest
    cases heq
    obtain ⟨w, hw, hcall⟩ := harguments hu hargs
    rcases hcall with ⟨hblanks, rfl⟩ | hcall
    · exact ⟨word ++ '(' :: w ++ [')'], by rw [hsplit, hw]; simp, .callEmpty hname hblanks⟩
    · exact ⟨word ++ '(' :: w ++ [')'], by rw [hsplit, hw]; simp, .call hname hcall⟩
  · -- a keyword
    obtain ⟨l, hl, heq⟩ := Option.map_eq_some_iff.1 hrest
    cases heq
    exact ⟨word, hsplit, isPrimary_of_keyword? hl⟩

/-- Blanks may come after the bracket that opens selectors. -/
lemma brackets_sound {ss : List Selector}
    (hselectors : ∃ w, skipBlanks t = w ++ ']' :: rest ∧ IsSelectors w ss) :
    ∃ b w, Blanks b ∧ t = b ++ w ++ ']' :: rest ∧ IsSelectors w ss := by
  obtain ⟨b, hb, ht⟩ := exists_blanks t
  obtain ⟨w, hw, hss⟩ := hselectors
  exact ⟨b, w, hb, by rw [ht, hw, List.append_assoc], hss⟩

lemma bracketed_sound {x : Segment}
    (hselectors : ∀ {ss r}, taken (selectors (skipBlanks t)) = some (ss, r) →
      ∃ w, skipBlanks t = w ++ ']' :: r ∧ IsSelectors w ss)
    (h : takenSegment (segment? ('[' :: t)) = some (some (x, rest))) :
    ∃ w, '[' :: t = w ++ rest ∧ IsSegment w x := by
  rw [takenSegment_bracketed] at h
  obtain ⟨⟨ss, r⟩, hss, heq⟩ := Option.map_eq_some_iff.1 h
  cases heq
  obtain ⟨b, w, hb, rfl, hsound⟩ := brackets_sound (hselectors hss)
  exact ⟨'[' :: b ++ w ++ [']'], by simp, .bracketed hb hsound⟩

/-- After two dots there is a shorthand or an open bracket, after one only a shorthand. -/
lemma dotted_sound {x : Segment}
    (hselectors : ∀ {u ss r}, u.length < t.length →
      taken (selectors (skipBlanks u)) = some (ss, r) →
      ∃ w, skipBlanks u = w ++ ']' :: r ∧ IsSelectors w ss)
    (h : takenSegment (segment? ('.' :: t)) = some (some (x, rest))) :
    ∃ w, '.' :: t = w ++ rest ∧ IsSegment w x := by
  by_cases hdots : ∃ u, t = '.' :: u
  · -- two points
    obtain ⟨u, rfl⟩ := hdots
    by_cases hopen : ∃ v, u = '[' :: v
    · obtain ⟨v, rfl⟩ := hopen
      rw [takenSegment_descendantBracketed] at h
      obtain ⟨⟨ss, r⟩, hss, heq⟩ := Option.map_eq_some_iff.1 h
      cases heq
      have hlt : v.length < ('.' :: '[' :: v).length := by
        simp only [List.length_cons]
        omega
      obtain ⟨b, w, hb, rfl, hsound⟩ := brackets_sound (hselectors hlt hss)
      exact ⟨'.' :: '.' :: '[' :: b ++ w ++ [']'], by simp, .descendantBracketed hb hsound⟩
    · rw [takenSegment_descendant (by simpa using hopen)] at h
      obtain ⟨⟨x', r⟩, hx, heq⟩ := Option.map_eq_some_iff.1 h
      cases heq
      obtain ⟨w, rfl, hshort⟩ := shorthand_sound hx
      exact ⟨'.' :: '.' :: w, rfl, .descendant hshort⟩
  · rw [takenSegment_child (by simpa using hdots)] at h
    obtain ⟨⟨x', r⟩, hx, heq⟩ := Option.map_eq_some_iff.1 h
    cases heq
    obtain ⟨w, rfl, hshort⟩ := shorthand_sound hx
    exact ⟨'.' :: w, rfl, .child hshort⟩

end Parts

mutual

theorem filter_sound {s rest : List Char} {f : Filter} (h : taken (filter s) = some (f, rest)) :
    ∃ w, s = w ++ rest ∧ IsFilter w f := by
  rw [taken_filter] at h
  obtain ⟨⟨left, r⟩, hleft, hmore⟩ := Option.bind_eq_some_iff.1 h
  obtain ⟨v, hs, hv⟩ := conjunction_sound hleft
  have hlen := length_le_of_eq_append hs
  dsimp only at hmore
  obtain ⟨w, hr, hw⟩ := moreAlternatives_sound (.one hv) hmore
  exact ⟨v ++ w, by rw [hs, hr, List.append_assoc], hw⟩
termination_by (s.length, 6)
decreasing_by all_goals exact lex_of_le (by omega)

/-- What is read is joined to what was read before. -/
theorem moreAlternatives_sound {v s rest : List Char} {left f : Filter} (hv : IsFilter v left)
    (h : taken (moreAlternatives left s) = some (f, rest)) :
    ∃ w, s = w ++ rest ∧ IsFilter (v ++ w) f := by
  obtain ⟨b, hb, hs⟩ := exists_blanks s
  rw [taken_moreAlternatives] at h
  split at h
  · rename_i t ht
    obtain ⟨⟨right, r⟩, hright, hmore⟩ := Option.bind_eq_some_iff.1 h
    have hlt := Nat.lt_of_succ_lt (length_lt_of_skipBlanks ht)
    obtain ⟨u, hu, hconj⟩ := conjunction_sound hright
    have hle := length_le_of_eq_append hu
    dsimp only at hmore
    obtain ⟨w, hw, hf⟩ := moreAlternatives_sound ((hv.append_blanks hb).or hconj) hmore
    refine ⟨b ++ '|' :: '|' :: u ++ w, ?_, by simpa using hf⟩
    rw [hs, ht, hu, hw]
    simp
  · cases h
    exact ⟨b, hs, hv.append_blanks hb⟩
termination_by (s.length, 5)
decreasing_by all_goals exact lex_of_le (by omega)

theorem conjunction_sound {s rest : List Char} {f : Filter}
    (h : taken (conjunction s) = some (f, rest)) : ∃ w, s = w ++ rest ∧ IsConjunction w f := by
  rw [taken_conjunction] at h
  obtain ⟨⟨left, r⟩, hleft, hmore⟩ := Option.bind_eq_some_iff.1 h
  obtain ⟨v, hs, hv⟩ := comparison_sound hleft
  have hlen := length_le_of_eq_append hs
  dsimp only at hmore
  obtain ⟨w, hr, hw⟩ := moreConjuncts_sound (.one hv) hmore
  exact ⟨v ++ w, by rw [hs, hr, List.append_assoc], hw⟩
termination_by (s.length, 4)
decreasing_by all_goals exact lex_of_le (by omega)

theorem moreConjuncts_sound {v s rest : List Char} {left f : Filter} (hv : IsConjunction v left)
    (h : taken (moreConjuncts left s) = some (f, rest)) :
    ∃ w, s = w ++ rest ∧ IsConjunction (v ++ w) f := by
  obtain ⟨b, hb, hs⟩ := exists_blanks s
  rw [taken_moreConjuncts] at h
  split at h
  · rename_i t ht
    obtain ⟨⟨right, r⟩, hright, hmore⟩ := Option.bind_eq_some_iff.1 h
    have hlt := Nat.lt_of_succ_lt (length_lt_of_skipBlanks ht)
    obtain ⟨u, hu, hcomp⟩ := comparison_sound hright
    have hle := length_le_of_eq_append hu
    dsimp only at hmore
    obtain ⟨w, hw, hf⟩ := moreConjuncts_sound ((hv.append_blanks hb).and hcomp) hmore
    refine ⟨b ++ '&' :: '&' :: u ++ w, ?_, by simpa using hf⟩
    rw [hs, ht, hu, hw]
    simp
  · cases h
    exact ⟨b, hs, hv.append_blanks hb⟩
termination_by (s.length, 3)
decreasing_by all_goals exact lex_of_le (by omega)

theorem comparison_sound {s rest : List Char} {f : Filter}
    (h : taken (comparison s) = some (f, rest)) : ∃ w, s = w ++ rest ∧ IsComparison w f := by
  rw [taken_comparison] at h
  obtain ⟨⟨left, r⟩, hleft, hrest⟩ := Option.bind_eq_some_iff.1 h
  obtain ⟨v, hs, hv⟩ := operand_sound hleft
  obtain ⟨b, hb, hr⟩ := exists_blanks r
  dsimp only at hrest
  split at hrest
  · cases hrest
    exact ⟨v ++ b, by rw [hs, List.append_assoc, ← hr], .one (hv.append_blanks hb)⟩
  · rename_i op hop
    obtain ⟨op, t⟩ := op
    obtain ⟨hcomp, ht⟩ := Token.comparison?_eq hop
    obtain ⟨⟨right, r'⟩, hright, hrest⟩ := Option.bind_eq_some_iff.1 hrest
    dsimp only at hright hrest
    have hle := length_le_of_eq_append hs
    have hle' := length_skipBlanks_le r
    have hle'' := length_le_of_eq_append ht
    obtain ⟨w, ht', hw⟩ := operand_sound hright
    obtain ⟨b', hb', hr'⟩ := exists_blanks r'
    split_ifs at hrest
    cases hrest
    refine ⟨v ++ b ++ op.symbol.toList ++ (w ++ b'), ?_,
      .compare hcomp (hv.append_blanks hb) (hw.append_blanks hb')⟩
    rw [hs, hr, ht]
    simp only [List.append_assoc]
    rw [ht', ← hr']
termination_by (s.length, 2)
decreasing_by all_goals exact lex_of_le (by omega)

theorem operand_sound {s rest : List Char} {f : Filter} (h : taken (operand s) = some (f, rest)) :
    ∃ w, s = w ++ rest ∧ IsOperand w f := by
  obtain ⟨b, hb, hs⟩ := exists_blanks s
  rw [taken_operand] at h
  split at h
  · rename_i t ht
    obtain ⟨⟨inner, r⟩, hinner, heq⟩ := Option.map_eq_some_iff.1 h
    cases heq
    have hlt := length_lt_of_skipBlanks ht
    obtain ⟨w, hw, hf⟩ := operand_sound hinner
    exact ⟨b ++ '!' :: w, by rw [hs, ht, hw]; simp, .not hb hf⟩
  · have hle := length_skipBlanks_le s
    obtain ⟨w, hw, hf⟩ := primary_sound h
    refine ⟨b ++ w ++ [], ?_, .primary hb hf blanks_nil⟩
    rw [List.append_nil, List.append_assoc, ← hw]
    exact hs
termination_by (s.length, 1)
decreasing_by all_goals exact lex_of_le (by omega)

theorem primary_sound {s rest : List Char} {f : Filter} (h : taken (primary s) = some (f, rest)) :
    ∃ w, s = w ++ rest ∧ IsPrimary w f := by
  rcases hs : s with _ | ⟨c, t⟩
  · rw [hs, primary] at h
    cases h
  have hlt : t.length < s.length := by simp [hs]
  rw [hs] at h
  by_cases hparen : c = '('
  · subst hparen
    exact parens_sound filter_sound h
  by_cases horigin : ∃ origin : Origin, c = origin.char
  · obtain ⟨origin, rfl⟩ := horigin
    rw [taken_primary_query] at h
    obtain ⟨⟨ss, r⟩, hss, heq⟩ := Option.map_eq_some_iff.1 h
    cases heq
    obtain ⟨w, hw, hf⟩ := segments_sound hss
    exact ⟨origin.char :: w, by rw [hw]; rfl, .query hf⟩
  rw [taken_primary_other t hparen (fun hc => horigin ⟨.root, hc⟩)
    (fun hc => horigin ⟨.current, hc⟩)] at h
  split_ifs at h
  · -- a string
    obtain ⟨⟨text, r⟩, htext, heq⟩ := Option.map_eq_some_iff.1 h
    cases heq
    obtain ⟨w, hw, hstring⟩ := exists_isString htext
    exact ⟨w, hw, .string hstring⟩
  · -- a number
    obtain ⟨⟨x, r⟩, hx, heq⟩ := Option.map_eq_some_iff.1 h
    cases heq
    obtain ⟨w, hw, hnumber⟩ := exists_isNumber hx
    exact ⟨w, hw, .number hnumber⟩
  · -- a word
    have hlen : (c :: t).length = s.length := by rw [hs]
    exact word_sound (fun hu hargs => arguments_sound hargs) h
termination_by (s.length, 0)
decreasing_by all_goals exact lex_of_le (by omega)

/-- Arguments end with the parenthesis that closes the call. -/
theorem arguments_sound {s rest : List Char} {args : List Filter}
    (h : taken (arguments s) = some (args, rest)) :
    ∃ w, s = w ++ ')' :: rest ∧ (Blanks w ∧ args = [] ∨ IsArguments w args) := by
  obtain ⟨b, hb, hs⟩ := exists_blanks s
  rw [taken_arguments] at h
  split at h
  · rename_i t ht
    cases h
    exact ⟨b, by rw [hs, ht], .inl ⟨hb, rfl⟩⟩
  · rw [taken_moreArguments_skipBlanks] at h
    obtain ⟨w, hw, hargs⟩ := moreArguments_sound h
    exact ⟨w, hw, .inr hargs⟩
termination_by (s.length, 8)
decreasing_by all_goals exact lex_of_le (by omega)

theorem moreArguments_sound {s rest : List Char} {args : List Filter}
    (h : taken (moreArguments s) = some (args, rest)) :
    ∃ w, s = w ++ ')' :: rest ∧ IsArguments w args := by
  rw [taken_moreArguments] at h
  obtain ⟨⟨f, r⟩, hf, hmore⟩ := Option.bind_eq_some_iff.1 h
  dsimp only at hmore
  obtain ⟨w, hw, harg⟩ := filter_sound hf
  obtain ⟨b, hb, hr⟩ := exists_blanks r
  split at hmore
  · rename_i t ht
    cases hmore
    exact ⟨w ++ b, by rw [hw, hr, ht]; simp, .one (harg.append_blanks hb)⟩
  · rename_i t ht
    obtain ⟨⟨args', r'⟩, hargs, heq⟩ := Option.map_eq_some_iff.1 hmore
    cases heq
    have hle := length_le_of_eq_append hw
    have hlt := length_lt_of_skipBlanks ht
    obtain ⟨v, hv, hmoreArgs⟩ := moreArguments_sound hargs
    refine ⟨w ++ b ++ ',' :: v, ?_, .cons (harg.append_blanks hb) hmoreArgs⟩
    rw [hw, hr, ht, hv]
    simp
  · cases hmore
termination_by (s.length, 7)
decreasing_by all_goals exact lex_of_le (by omega)

theorem segments_sound {s rest : List Char} {ss : List Segment}
    (h : taken (segments s) = some (ss, rest)) : ∃ w, s = w ++ rest ∧ IsSegments w ss := by
  obtain ⟨b, hb, hs⟩ := exists_blanks s
  have hle := length_skipBlanks_le s
  rw [taken_segments] at h
  obtain ⟨_ | ⟨first, r⟩, hfirst, hmore⟩ := Option.bind_eq_some_iff.1 h
  · cases hmore
    exact ⟨[], rfl, .nil⟩
  · obtain ⟨v, hv, hsegment⟩ := segment_sound hfirst
    obtain ⟨⟨ss', r'⟩, hss, heq⟩ := Option.map_eq_some_iff.1 hmore
    cases heq
    dsimp only at hss
    have hlt : r.length < (skipBlanks s).length := by
      have := hsegment.length_pos
      rw [hv, List.length_append]
      omega
    obtain ⟨w, hw, hsegments⟩ := segments_sound hss
    refine ⟨b ++ v ++ w, ?_, .cons hb hsegment hsegments⟩
    rw [hs, hv, hw]
    simp
termination_by (s.length, 2)
decreasing_by all_goals exact lex_of_le (by omega)

theorem segment_sound {s rest : List Char} {x : Segment}
    (h : takenSegment (segment? s) = some (some (x, rest))) :
    ∃ w, s = w ++ rest ∧ IsSegment w x := by
  by_cases hbracket : ∃ t, s = '[' :: t
  · obtain ⟨t, hs⟩ := hbracket
    have hle := length_skipBlanks_le t
    have hlt : t.length < s.length := by simp [hs]
    rw [hs] at h ⊢
    exact bracketed_sound selectors_sound h
  by_cases hdot : ∃ t, s = '.' :: t
  · obtain ⟨t, hs⟩ := hdot
    have hlt : t.length < s.length := by simp [hs]
    rw [hs] at h ⊢
    refine dotted_sound (fun {u _ _} hu hss => ?_) h
    have hle := length_skipBlanks_le u
    exact selectors_sound hss
  · rw [takenSegment_absent (by simpa using hdot) (by simpa using hbracket)] at h
    cases h
termination_by (s.length, 1)
decreasing_by all_goals exact lex_of_le (by omega)

/-- Selectors end with the bracket that closes them. -/
theorem selectors_sound {s rest : List Char} {ss : List Selector}
    (h : taken (selectors s) = some (ss, rest)) :
    ∃ w, s = w ++ ']' :: rest ∧ IsSelectors w ss := by
  rw [taken_selectors] at h
  obtain ⟨⟨x, r⟩, hx, hmore⟩ := Option.bind_eq_some_iff.1 h
  dsimp only at hmore
  obtain ⟨w, b, hb, hs, hselector⟩ := selector_sound hx
  split at hmore
  · -- the last selector
    rename_i t ht
    cases hmore
    exact ⟨w ++ b, by rw [hs, ht], .one hselector hb⟩
  · -- a comma and further selectors
    rename_i t ht
    obtain ⟨⟨ss', r'⟩, hss, heq⟩ := Option.map_eq_some_iff.1 hmore
    cases heq
    obtain ⟨b', hb', ht'⟩ := exists_blanks t
    have hlt : (skipBlanks t).length < s.length := by
      have := length_skipBlanks_le t
      rw [hs, ht]
      simp only [List.length_append, List.length_cons]
      omega
    obtain ⟨v, hv, hselectors⟩ := selectors_sound hss
    refine ⟨w ++ b ++ ',' :: b' ++ v, ?_, .cons hselector hb hb' hselectors⟩
    rw [hs, ht, ht', hv]
    simp
  · cases hmore
termination_by (s.length, 2)
decreasing_by all_goals exact lex_of_le (by omega)

theorem selector_sound {s rest : List Char} {x : Selector}
    (h : taken (selector s) = some (x, rest)) :
    ∃ w b, Blanks b ∧ s = w ++ b ++ skipBlanks rest ∧ IsSelector w x := by
  obtain ⟨b, hb, hrest⟩ := exists_blanks rest
  rcases hs : s with _ | ⟨c, t⟩
  · rw [hs, taken_selector_nil] at h
    cases h
  have hlt : t.length < s.length := by simp [hs]
  rw [hs] at h
  by_cases hwildcard : c = '*'
  · subst hwildcard
    rw [taken_selector_wildcard] at h
    cases h
    exact ⟨['*'], b, hb, congrArg ('*' :: ·) hrest, .wildcard⟩
  by_cases hfilter : c = '?'
  · subst hfilter
    rw [taken_selector_filter, taken_filter_skipBlanks] at h
    obtain ⟨⟨f, r⟩, hf, heq⟩ := Option.map_eq_some_iff.1 h
    cases heq
    obtain ⟨w, hw, hcondition⟩ := filter_sound hf
    refine ⟨'?' :: w, b, hb, ?_, .filter hcondition⟩
    rw [hw, List.append_assoc, ← hrest]
    rfl
  rw [taken_selector_other t hwildcard hfilter] at h
  split_ifs at h
  · -- a name
    obtain ⟨⟨key, r⟩, hkey, heq⟩ := Option.map_eq_some_iff.1 h
    cases heq
    obtain ⟨w, hw, hstring⟩ := exists_isString hkey
    exact ⟨w, b, hb, by rw [hw, List.append_assoc, ← hrest], .name hstring⟩
  · exact indexOrSlice_sound h
termination_by (s.length, 1)
decreasing_by all_goals exact lex_of_le (by omega)

end

end JsonQuery.Grammar
