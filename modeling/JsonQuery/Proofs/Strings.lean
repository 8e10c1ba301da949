import JsonQuery.Proofs.Tokens

/-!
The readers of string literals by what they take. The bounds on what is left and the places of
failures have no part in it.
-/

namespace JsonQuery.StringLiteral

/-! ### Escapes -/

lemma lowSurrogate?_plain (s : List Char) :
    (lowSurrogate? ('\\' :: 'u' :: s)).map Parsed.plain =
      ((fourHexDigits? s).map Parsed.plain).bind fun p =>
        if isLowSurrogate p.1 then some p else none := by
  rw [lowSurrogate?]
  rcases fourHexDigits? s with _ | low
  · rfl
  · by_cases hlow : isLowSurrogate low.value = true
    · simp [hlow, Parsed.plain, Parsed.widen]
    · simp [hlow, Parsed.plain]

lemma taken_readUnicode (start s : List Char) :
    taken (readUnicode start s) = ((fourHexDigits? s).map Parsed.plain).bind fun high =>
      if isHighSurrogate high.1 then
        ((lowSurrogate? high.2).map Parsed.plain).map fun low => (ofSurrogates high.1 low.1, low.2)
      else if isLowSurrogate high.1 then none else some (.ofNat high.1, high.2) := by
  rw [readUnicode]
  rcases fourHexDigits? s with _ | high
  · rfl
  · simp only [Option.map_some, Option.bind_some]
    by_cases hhigh : isHighSurrogate high.value = true
    · rcases hlow : lowSurrogate? high.rest with _ | low <;>
        simp [hhigh, Parsed.plain, hlow]
    · by_cases hlow : isLowSurrogate high.value = true <;> simp [hhigh, hlow, Parsed.plain]

lemma taken_readEscape (quote : Char) (start : List Char) (c : Char) (s : List Char) :
    taken (readEscape quote start (c :: s)) = match shortEscape? quote c with
      | some x => some (x, s)
      | none => if c = 'u' then taken (readUnicode start s) else none := by
  rw [readEscape]
  cases shortEscape? quote c with
  | some x => rfl
  | none =>
    by_cases hc : c = 'u'
    · simp only [if_pos hc]
      exact taken_map_widen fun p => rfl
    · simp [hc]

/-- The text from the backslash on only matters to failures. -/
lemma taken_readEscape_start (quote : Char) (start start' s : List Char) :
    taken (readEscape quote start s) = taken (readEscape quote start' s) := by
  cases s with
  | nil => rfl
  | cons c s => simp [taken_readEscape, taken_readUnicode]

/-! ### Strings -/

lemma taken_readBody (quote : Char) (s : List Char) :
    taken (readBody quote s) = match s with
      | [] => none
      | c :: t =>
        if c = quote then some ([], t)
        else if c.toNat < 0x20 then none
        else if c = '\\' then
          (taken (readEscape quote [] t)).bind fun x =>
            (taken (readBody quote x.2)).map fun more => (x.1 :: more.1, more.2)
        else (taken (readBody quote t)).map fun more => (c :: more.1, more.2) := by
  rw [readBody.eq_def]
  cases s with
  | nil => rfl
  | cons c t =>
    dsimp only
    split_ifs with hquote hcontrol hescape
    · rfl
    · rfl
    · rw [taken_readEscape_start quote [] (c :: t)]
      exact taken_bind fun p => taken_bind_pure fun q => rfl
    · exact taken_bind_pure fun q => rfl

lemma taken_read (c : Char) (s : List Char) :
    taken (read (c :: s)) = if c = '\'' ∨ c = '"' then
      (taken (readBody c s)).map fun p => (.ofList p.1, p.2) else none := by
  by_cases hc : c = '\'' ∨ c = '"'
  · rw [if_pos hc]
    rcases hc with rfl | rfl <;> exact taken_map fun p => rfl
  · rw [if_neg hc, read]
    · rfl
    · intro t heq
      cases heq
      exact hc (.inl rfl)
    · intro t heq
      cases heq
      exact hc (.inr rfl)

end JsonQuery.StringLiteral
