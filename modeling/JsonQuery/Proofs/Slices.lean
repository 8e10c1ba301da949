import JsonQuery.Proofs.Follow

/-!
Names, indices and slices. The readers of these take what the grammar describes and nothing
else; blanks that a reader skips after a bound of a slice belong to the bound.
-/

namespace JsonQuery.Grammar

open Reading

/-! ### What is read is derived -/

section Tokens

variable {s rest : List Char}

lemma exists_isString {text : String} (h : taken (StringLiteral.read s) = some (text, rest)) :
    ∃ w, s = w ++ rest ∧ IsString w text :=
  StringLiteral.closes_read.cuts.token h

lemma exists_isInt {n : Int} (h : (Token.int? s).map Parsed.plain = some (n, rest)) :
    ∃ w, s = w ++ rest ∧ IsInt w n :=
  Token.cuts_int?.token h

lemma exists_isNumber {x : Double} (h : (Token.number? s).map Parsed.plain = some (x, rest)) :
    ∃ w, s = w ++ rest ∧ IsNumber w x :=
  Token.cuts_number?.token h

lemma isName_of_name? {n : List Char} (h : (Token.name? s).map Parsed.plain = some (n, rest)) :
    s = n ++ rest ∧ IsName n := by
  obtain ⟨w, hs, hw⟩ := Token.cuts_name?.token h
  have hn := Token.name?_eq hw
  rw [List.append_nil] at hn
  subst hn
  exact ⟨hs, hw⟩

lemma isPrimary_of_keyword? {w : List Char} {l : Literal} (h : keyword? w = some l) :
    IsPrimary w (.literal l) := by
  unfold keyword? at h
  split_ifs at h with htrue hfalse hnull
  · cases h
    exact htrue ▸ .wordTrue
  · cases h
    exact hfalse ▸ .wordFalse
  · cases h
    exact hnull ▸ .wordNull

lemma shorthand_sound {x : Selector} (h : taken (shorthand s) = some (x, rest)) :
    ∃ w, s = w ++ rest ∧ IsShorthand w x := by
  by_cases hs : ∃ t, s = '*' :: t
  · obtain ⟨t, rfl⟩ := hs
    rw [taken_shorthand_wildcard] at h
    cases h
    exact ⟨['*'], rfl, .wildcard⟩
  · rw [taken_shorthand_name (by simpa using hs)] at h
    obtain ⟨⟨n, r⟩, hn, heq⟩ := Option.map_eq_some_iff.1 h
    cases heq
    obtain ⟨rfl, hname⟩ := isName_of_name? hn
    exact ⟨n, rfl, .name hname⟩

/-- The blanks after a part of a slice belong to the part. -/
lemma slicePart_sound {colonEnds : Bool} {n : Option Int}
    (h : taken (slicePart colonEnds (skipBlanks s)) = some (n, rest)) :
    ∃ b w, Blanks b ∧ s = b ++ w ++ skipBlanks rest ∧ IsBound w n := by
  obtain ⟨b, hb, hs⟩ := exists_blanks s
  rw [taken_slicePart] at h
  split_ifs at h
  · cases h
    exact ⟨b, [], hb, by simpa using hs, .absent⟩
  · obtain ⟨⟨m, r⟩, hm, heq⟩ := Option.map_eq_some_iff.1 h
    cases heq
    obtain ⟨w, hw, hint⟩ := exists_isInt hm
    obtain ⟨b', hb', hr⟩ := exists_blanks r
    refine ⟨b, w ++ b', hb, ?_, .int hint hb'⟩
    rw [hs, hw]
    simpa using hr

lemma sliceStep_sound {start stop : Option Int} {x : Selector}
    (h : taken (sliceStep start stop s) = some (x, rest)) :
    ∃ w step, x = .slice ⟨start, stop, step⟩ ∧ IsStep w step ∧
      skipBlanks s = w ++ skipBlanks rest := by
  rw [taken_sliceStep] at h
  split at h
  · rename_i t ht
    obtain ⟨⟨n, r⟩, hn, heq⟩ := Option.map_eq_some_iff.1 h
    cases heq
    obtain ⟨b, w, hb, hs, hw⟩ := slicePart_sound hn
    exact ⟨':' :: b ++ w, n.getD 1, rfl, .written hb hw, by rw [ht, hs]; simp⟩
  · cases h
    exact ⟨[], 1, rfl, .absent, by simp⟩

lemma sliceAfterColon_sound {start : Option Int} {x : Selector}
    (h : taken (sliceAfterColon start s) = some (x, rest)) :
    ∃ b w v stop step, x = .slice ⟨start, stop, step⟩ ∧ Blanks b ∧ IsBound w stop ∧
      IsStep v step ∧ s = b ++ w ++ v ++ skipBlanks rest := by
  rw [taken_sliceAfterColon] at h
  obtain ⟨⟨stop, r⟩, hstop, hstep⟩ := Option.bind_eq_some_iff.1 h
  obtain ⟨b, w, hb, hs, hw⟩ := slicePart_sound hstop
  obtain ⟨v, step, rfl, hv, hr⟩ := sliceStep_sound hstep
  exact ⟨b, w, v, stop, step, rfl, hb, hw, hv, by rw [hs, hr]; simp⟩

lemma indexOrSlice_sound {x : Selector} (h : taken (indexOrSlice s) = some (x, rest)) :
    ∃ w b, Blanks b ∧ s = w ++ b ++ skipBlanks rest ∧ IsSelector w x := by
  by_cases hs : ∃ t, s = ':' :: t
  · obtain ⟨t, rfl⟩ := hs
    rw [taken_indexOrSlice_colon] at h
    obtain ⟨b, w, v, stop, step, rfl, hb, hw, hv, ht⟩ := sliceAfterColon_sound h
    refine ⟨_, [], blanks_nil, ?_, .slice (.intro .absent hb hw hv)⟩
    rw [ht]
    simp
  · rw [taken_indexOrSlice_int (by simpa using hs)] at h
    obtain ⟨⟨n, r⟩, hn, hrest⟩ := Option.bind_eq_some_iff.1 h
    obtain ⟨u, rfl, hu⟩ := exists_isInt hn
    obtain ⟨b, hb, hr⟩ := exists_blanks r
    dsimp only at hrest
    split at hrest
    · -- a slice after its first bound
      rename_i t ht
      obtain ⟨b', w, v, stop, step, rfl, hb', hw, hv, ht'⟩ := sliceAfterColon_sound hrest
      refine ⟨_, [], blanks_nil, ?_, .slice (.intro (.int hu hb) hb' hw hv)⟩
      rw [hr, ht, ht']
      simp
    · cases hrest
      exact ⟨u, b, hb, by simpa using hr, .index hu⟩

end Tokens

/-! ### What is derived is read -/

section Slices

variable {w r s : List Char} {step : Int}

lemma shorthand_complete {x : Selector} (h : IsShorthand w x) (hr : Avoids continuesName r) :
    taken (shorthand (w ++ r)) = some (x, r) := by
  cases h with
  | wildcard => exact taken_shorthand_wildcard r
  | name h =>
    obtain ⟨c, t, hw, hc⟩ := h.head
    have hne : ∀ u, w ++ r ≠ '*' :: u := append_ne_cons hw (ne_of_class hc (by decide)) r
    rw [taken_shorthand_name hne, Token.cuts_name?.append h hr]
    rfl

/-- What comes after a part of a slice. -/
def partStops (colonEnds : Bool) : List Char := if colonEnds then [':', ',', ']'] else [',', ']']

lemma endsPart_of_ends {colonEnds : Bool} (h : Ends (partStops colonEnds) s) :
    endsPart colonEnds (skipBlanks s) = true := by
  rw [Ends] at h
  cases hs : skipBlanks s with
  | nil => rfl
  | cons c t =>
    have hc := h c (by rw [hs]; rfl)
    cases colonEnds with
    | true =>
      simp only [partStops, if_true, List.mem_cons, List.not_mem_nil, or_false] at hc
      rcases hc with rfl | rfl | rfl <;> rfl
    | false =>
      simp only [partStops, Bool.false_eq_true, if_false, List.mem_cons, List.not_mem_nil,
        or_false] at hc
      rcases hc with rfl | rfl <;> rfl

lemma endsPart_of_begins {c : Char} (hc : beginsNumber c = true) (colonEnds : Bool)
    (t : List Char) : endsPart colonEnds (c :: t) = false := by
  have h1 : c ≠ ',' := ne_of_class hc (by decide)
  have h2 : c ≠ ']' := ne_of_class hc (by decide)
  have h3 : c ≠ ':' := ne_of_class hc (by decide)
  simp [endsPart, h1, h2, h3]

/-- An integer is read up to the blanks after it. -/
lemma int?_append {b : List Char} {n : Int} (h : IsInt w n) (hb : Blanks b)
    (hr : Ends (partStops true) r) :
    (Token.int? (w ++ (b ++ r))).map Parsed.plain = some (n, b ++ r) :=
  Token.cuts_int?.append h ((hr.append_left hb).avoids (by decide) (by decide))

lemma slicePart_complete {colonEnds : Bool} {b : List Char} {n : Option Int} (hb : Blanks b)
    (h : IsBound w n) (hr : Ends (partStops colonEnds) r) :
    ∃ r', taken (slicePart colonEnds (skipBlanks (b ++ (w ++ r)))) = some (n, r') ∧
      skipBlanks r' = skipBlanks r := by
  rw [hb.skipBlanks_append]
  cases h with
  | absent =>
    refine ⟨skipBlanks r, ?_, skipBlanks_skipBlanks r⟩
    rw [List.nil_append, taken_slicePart, if_pos (endsPart_of_ends hr)]
  | @int u b' n hn hb' =>
    obtain ⟨c, t, hu, hc⟩ := hn.head
    have hskip : skipBlanks (u ++ b' ++ r) = u ++ (b' ++ r) := by
      rw [hu, List.append_assoc, List.cons_append,
        skipBlanks_cons (isBlank_eq_false (by decide) hc)]
    have hends : endsPart colonEnds (u ++ (b' ++ r)) = false := by
      rw [hu]
      exact endsPart_of_begins hc colonEnds _
    refine ⟨b' ++ r, ?_, hb'.skipBlanks_append r⟩
    rw [hskip, taken_slicePart, if_neg (by simp [hends]), int?_append hn hb' (hr.mono ?_)]
    · rfl
    · cases colonEnds <;> simp [partStops]

lemma sliceStep_complete {start stop : Option Int} (h : IsStep w step)
    (hr : Ends (partStops false) r) (hs : skipBlanks s = skipBlanks (w ++ r)) :
    ∃ r', taken (sliceStep start stop s) = some (.slice ⟨start, stop, step⟩, r') ∧
      skipBlanks r' = skipBlanks r := by
  cases h with
  | absent =>
    refine ⟨skipBlanks r, ?_, skipBlanks_skipBlanks r⟩
    rw [taken_sliceStep, hs, List.nil_append]
    split
    · rename_i t ht
      exact absurd ht (hr.skipBlanks_ne (by decide) t)
    · rfl
  | @written b v n hb hv =>
    obtain ⟨r', hpart, hr'⟩ := slicePart_complete hb hv hr
    have hcolon : skipBlanks s = ':' :: (b ++ (v ++ r)) := by
      rw [hs, List.append_assoc, List.cons_append, skipBlanks_cons (by decide)]
    refine ⟨r', ?_, hr'⟩
    simp only [taken_sliceStep, hcolon]
    rw [hpart]
    rfl

lemma IsStep.ends (h : IsStep w step) (hr : Ends (partStops false) r) :
    Ends (partStops true) (w ++ r) := by
  cases h with
  | absent => exact hr.mono (by simp [partStops])
  | written hb hv => exact ends_cons (by simp [partStops]) (by decide) _

lemma sliceAfterColon_complete {b v : List Char} {stop : Option Int} (start : Option Int)
    (hb : Blanks b) (hw : IsBound w stop) (hv : IsStep v step) (hr : Ends (partStops false) r) :
    ∃ r', taken (sliceAfterColon start (b ++ (w ++ (v ++ r)))) =
        some (.slice ⟨start, stop, step⟩, r') ∧ skipBlanks r' = skipBlanks r := by
  obtain ⟨s, hpart, hs⟩ := slicePart_complete hb hw (hv.ends hr)
  obtain ⟨r', hstep, hr'⟩ := sliceStep_complete hv hr hs
  refine ⟨r', ?_, hr'⟩
  rw [taken_sliceAfterColon, hpart]
  exact hstep

/-- A text that begins with an integer goes on as the text after the integer says. -/
lemma taken_indexOrSlice_append {b : List Char} {n : Int} (hn : IsInt w n) (hb : Blanks b)
    (hr : Ends (partStops true) r) :
    taken (indexOrSlice (w ++ (b ++ r))) = match skipBlanks r with
      | ':' :: t => taken (sliceAfterColon (some n) t)
      | t => some (.index n, t) := by
  obtain ⟨c, t, hw, hc⟩ := hn.head
  have hne : ∀ u, w ++ (b ++ r) ≠ ':' :: u :=
    append_ne_cons hw (ne_of_class hc (by decide)) (b ++ r)
  have hskip := hb.skipBlanks_append r
  rw [taken_indexOrSlice_int hne, int?_append hn hb hr, Option.bind_some]
  exact congrArg (fun s => match s with
    | ':' :: t => taken (sliceAfterColon (some n) t)
    | t => some (.index n, t)) hskip

lemma slice_complete {x : Slice} (h : IsSlice w x) (hr : Ends (partStops false) r) :
    ∃ r', taken (indexOrSlice (w ++ r)) = some (.slice x, r') ∧ skipBlanks r' = skipBlanks r := by
  obtain ⟨hv, hb, hw, hx⟩ := h
  rename_i v b w x start stop step
  obtain ⟨r', hread, hr'⟩ := sliceAfterColon_complete start hb hw hx hr
  refine ⟨r', ?_, hr'⟩
  cases hv with
  | absent =>
    have htext : [] ++ ':' :: b ++ w ++ x ++ r = ':' :: (b ++ (w ++ (x ++ r))) := by simp
    rw [htext, taken_indexOrSlice_colon]
    exact hread
  | @int u b' n hn hb' =>
    have hcolon : Ends (partStops true) (':' :: (b ++ (w ++ (x ++ r)))) :=
      ends_cons (by simp [partStops]) (by decide) _
    have htext : u ++ b' ++ ':' :: b ++ w ++ x ++ r =
        u ++ (b' ++ ':' :: (b ++ (w ++ (x ++ r)))) := by simp
    rw [htext, taken_indexOrSlice_append hn hb' hcolon, skipBlanks_cons (by decide)]
    exact hread

lemma index_complete {n : Int} (h : IsInt w n) (hr : Ends (partStops false) r) :
    taken (indexOrSlice (w ++ r)) = some (.index n, skipBlanks r) := by
  have hr' : Ends (partStops true) r := hr.mono (by simp [partStops])
  have htext : w ++ r = w ++ ([] ++ r) := rfl
  rw [htext, taken_indexOrSlice_append h blanks_nil hr']
  split
  · rename_i t ht
    exact absurd ht (hr.skipBlanks_ne (by decide) t)
  · rfl

end Slices

end JsonQuery.Grammar
