import JsonQuery.Proofs.Readers
import Mathlib.Tactic.ByContra

/-!
What the parts of a query text begin with, and what may come after them. A reader stops where
a part ends because the next character that is no blank can neither continue the part nor join
another one to it.
-/

namespace JsonQuery.Grammar

/-! ### First characters -/

lemma ne_of_class {p : Char → Bool} {c d : Char} (hc : p c = true) (hd : p d = false) :
    c ≠ d := by
  rintro rfl
  rw [hc] at hd
  cases hd

lemma not_quote_of_class {p : Char → Bool} {c : Char} (hc : p c = true)
    (hp : p '\'' = false ∧ p '"' = false) : ¬(c = '\'' ∨ c = '"') := by
  rintro (hq | hq)
  · exact ne_of_class hc hp.1 hq
  · exact ne_of_class hc hp.2 hq

lemma append_ne_cons {w t : List Char} {c d : Char} (hw : w = c :: t) (hcd : c ≠ d)
    (r u : List Char) : w ++ r ≠ d :: u := by
  intro hu
  rw [hw] at hu
  exact hcd (List.cons.inj hu).1

lemma isBlank_cases {c : Char} (h : isBlank c = true) :
    c = ' ' ∨ c = '\t' ∨ c = '\n' ∨ c = '\r' := by
  simpa [isBlank, or_assoc] using h

/-- A property of characters that the four blanks lack. -/
lemma isBlank_eq_false {p : Char → Bool} (hp : p ' ' = false ∧ p '\t' = false ∧ p '\n' = false ∧
    p '\r' = false) {c : Char} (hc : p c = true) : isBlank c = false := by
  cases h : isBlank c with
  | false => rfl
  | true =>
    obtain ⟨h1, h2, h3, h4⟩ := hp
    rcases isBlank_cases h with rfl | rfl | rfl | rfl <;> simp_all

/-- The characters that a number, or an integer, begins with. -/
def beginsNumber (c : Char) : Bool := c == '-' || c.isDigit

/-- The characters that an operand without negation begins with. -/
def beginsPrimary (c : Char) : Bool :=
  c == '(' || c == '$' || c == '@' || c == '\'' || c == '"' || beginsNumber c || startsName c

/-- The characters that an index or a slice begins with. -/
def beginsPosition (c : Char) : Bool := c == ':' || beginsNumber c

/-- The characters that a selector between brackets begins with. -/
def beginsSelector (c : Char) : Bool :=
  c == '*' || c == '?' || c == '\'' || c == '"' || beginsPosition c

lemma isDigit_eq_false_of_startsName {c : Char} (h : startsName c = true) : c.isDigit = false := by
  cases hd : c.isDigit with
  | false => rfl
  | true =>
    have h0 : 48 ≤ c.toNat := (Char.isDigit_iff_toNat.1 hd).1
    have h9 : c.toNat ≤ 57 := (Char.isDigit_iff_toNat.1 hd).2
    simp only [startsName, Bool.or_eq_true, beq_iff_eq, decide_eq_true_eq] at h
    rcases h with (rfl | h) | h
    · revert h9
      decide
    · rcases Bool.or_eq_true_iff.1 h with h | h
      · have : 65 ≤ c.toNat := (of_decide_eq_true h).1
        omega
      · have : 97 ≤ c.toNat := of_decide_eq_true (Bool.and_eq_true_iff.1 h).1
        omega
    · omega

lemma IsString.head {w : List Char} {s : String} (h : IsString w s) :
    ∃ c t, w = c :: t ∧ (c = '\'' ∨ c = '"') := by
  cases w with
  | nil => cases h
  | cons c t =>
    rw [IsString, StringLiteral.taken_read] at h
    split_ifs at h with hc
    exact ⟨c, t, rfl, hc⟩

lemma IsName.head {w : List Char} (h : IsName w) : ∃ c t, w = c :: t ∧ startsName c = true := by
  cases w with
  | nil => cases h
  | cons c t => exact ⟨c, t, rfl, Token.cuts_name?.head h c rfl⟩

lemma head_of_scanWhole {s : List Char} {p : List Char × List Char}
    (h : NumberToken.scanWhole (NumberToken.scanMinus s).2 = some p) :
    ∃ c t, s = c :: t ∧ beginsNumber c = true := by
  obtain ⟨c, t, hs, hc⟩ : ∃ c t, (NumberToken.scanMinus s).2 = c :: t ∧ c.isDigit = true := by
    cases hs : (NumberToken.scanMinus s).2 with
    | nil =>
      rw [hs] at h
      cases h
    | cons c t =>
      rw [hs, NumberToken.scanWhole] at h
      refine ⟨c, t, rfl, ?_⟩
      by_contra hc
      simp [spanDigits, hc, NumberToken.isWhole] at h
  unfold NumberToken.scanMinus at hs
  split at hs
  · exact ⟨'-', _, rfl, rfl⟩
  · exact ⟨c, t, hs, by simp [beginsNumber, hc]⟩

lemma IsInt.head {w : List Char} {n : Int} (h : IsInt w n) :
    ∃ c t, w = c :: t ∧ beginsNumber c = true := by
  rw [IsInt, Token.int?] at h
  split at h
  · cases h
  · rename_i hw
    exact head_of_scanWhole hw

lemma IsNumber.head {w : List Char} {x : Double} (h : IsNumber w x) :
    ∃ c t, w = c :: t ∧ beginsNumber c = true := by
  rw [IsNumber, Token.number?] at h
  split at h
  · cases h
  · rename_i hscan
    obtain ⟨_, hwhole, -⟩ := Option.bind_eq_some_iff.1 hscan
    exact head_of_scanWhole hwhole

lemma IsShorthand.head {w : List Char} {x : Selector} (h : IsShorthand w x) :
    ∃ c t, w = c :: t ∧ c ≠ '.' ∧ c ≠ '[' := by
  cases h with
  | wildcard => exact ⟨'*', [], rfl, by decide, by decide⟩
  | name h =>
    obtain ⟨c, t, rfl, hc⟩ := h.head
    exact ⟨c, t, rfl, ne_of_class hc (by decide), ne_of_class hc (by decide)⟩

lemma IsPrimary.head {w : List Char} {f : Filter} (h : IsPrimary w f) :
    ∃ c t, w = c :: t ∧ beginsPrimary c = true := by
  cases h with
  | parens => exact ⟨'(', _, rfl, rfl⟩
  | string h =>
    obtain ⟨c, t, rfl, rfl | rfl⟩ := h.head
    · exact ⟨_, t, rfl, rfl⟩
    · exact ⟨_, t, rfl, rfl⟩
  | number h =>
    obtain ⟨c, t, rfl, hc⟩ := h.head
    exact ⟨c, t, rfl, by simp [beginsPrimary, hc]⟩
  | wordTrue => exact ⟨'t', _, rfl, rfl⟩
  | wordFalse => exact ⟨'f', _, rfl, rfl⟩
  | wordNull => exact ⟨'n', _, rfl, rfl⟩
  | @query w origin => exact ⟨_, w, rfl, by cases origin <;> rfl⟩
  | callEmpty hn =>
    obtain ⟨c, t, rfl, hc⟩ := hn.head
    exact ⟨c, _, rfl, by simp [beginsPrimary, hc]⟩
  | call hn =>
    obtain ⟨c, t, rfl, hc⟩ := hn.head
    exact ⟨c, _, rfl, by simp [beginsPrimary, hc]⟩

/-- A text that begins, after blanks, with `!` or as an operand without negation. -/
def StartsOperand (w : List Char) : Prop :=
  ∃ b c t, w = b ++ c :: t ∧ Blanks b ∧ (c = '!' ∨ beginsPrimary c = true)

lemma StartsOperand.append {w : List Char} (h : StartsOperand w) (v : List Char) :
    StartsOperand (w ++ v) := by
  obtain ⟨b, c, t, rfl, hb, hc⟩ := h
  exact ⟨b, c, t ++ v, by simp, hb, hc⟩

lemma IsOperand.head {w : List Char} {f : Filter} (h : IsOperand w f) : StartsOperand w := by
  cases h with
  | @not b w f hb h => exact ⟨b, '!', w, rfl, hb, .inl rfl⟩
  | @primary b w b' f hb h hb' =>
    obtain ⟨c, t, rfl, hc⟩ := h.head
    exact ⟨b, c, t ++ b', by simp, hb, .inr hc⟩

lemma IsComparison.head {w : List Char} {f : Filter} (h : IsComparison w f) :
    StartsOperand w := by
  cases h with
  | one h => exact h.head
  | compare hop h h' => exact (h.head.append _).append _

theorem IsConjunction.head {w : List Char} {f : Filter} : IsConjunction w f → StartsOperand w
  | .one h => h.head
  | .and h _ => h.head.append _

theorem IsFilter.head {w : List Char} {f : Filter} : IsFilter w f → StartsOperand w
  | .one h => h.head
  | .or h _ => h.head.append _

lemma IsArguments.head {w : List Char} {args : List Filter} (h : IsArguments w args) :
    StartsOperand w := by
  cases h with
  | one h => exact h.head
  | cons h hs => exact h.head.append _

/-- No operand begins with such a character, be it after blanks or not. -/
lemma StartsOperand.skipBlanks_ne {w : List Char} (h : StartsOperand w) {d : Char}
    (hd : d ≠ '!' ∧ beginsPrimary d = false) (t : List Char) : skipBlanks w ≠ d :: t := by
  obtain ⟨b, c, u, rfl, hb, hc⟩ := h
  have hblank : isBlank c = false := by
    rcases hc with rfl | hc
    · rfl
    · exact isBlank_eq_false (by decide) hc
  rw [hb.skipBlanks_append, skipBlanks_cons hblank]
  rintro heq
  cases heq
  rcases hc with rfl | hc
  · exact hd.1 rfl
  · exact absurd (hc.symm.trans hd.2) (by decide)

lemma beginsPosition_of_number {c : Char} (h : beginsNumber c = true) :
    beginsPosition c = true := by
  simp [beginsPosition, h]

lemma IsSlice.head {w : List Char} {s : Slice} (h : IsSlice w s) :
    ∃ c t, w = c :: t ∧ beginsPosition c = true := by
  cases h with
  | intro hv hb hw hx =>
    cases hv with
    | absent => exact ⟨':', _, rfl, rfl⟩
    | int hn hb' =>
      obtain ⟨c, t, rfl, hc⟩ := hn.head
      exact ⟨c, _, rfl, beginsPosition_of_number hc⟩

lemma IsSelector.head {w : List Char} {x : Selector} (h : IsSelector w x) :
    ∃ c t, w = c :: t ∧ beginsSelector c = true := by
  cases h with
  | wildcard => exact ⟨'*', _, rfl, rfl⟩
  | name h =>
    obtain ⟨c, t, rfl, rfl | rfl⟩ := h.head
    · exact ⟨_, t, rfl, rfl⟩
    · exact ⟨_, t, rfl, rfl⟩
  | filter => exact ⟨'?', _, rfl, rfl⟩
  | index h =>
    obtain ⟨c, t, rfl, hc⟩ := h.head
    exact ⟨c, t, rfl, by simp [beginsSelector, beginsPosition_of_number hc]⟩
  | slice h =>
    obtain ⟨c, t, rfl, hc⟩ := h.head
    exact ⟨c, t, rfl, by simp [beginsSelector, hc]⟩

lemma IsSelectors.head {w : List Char} {ss : List Selector} (h : IsSelectors w ss) :
    ∃ c t, w = c :: t ∧ beginsSelector c = true := by
  cases h with
  | one h =>
    obtain ⟨c, t, rfl, hc⟩ := h.head
    exact ⟨c, _, rfl, hc⟩
  | cons h =>
    obtain ⟨c, t, rfl, hc⟩ := h.head
    exact ⟨c, _, by rw [List.cons_append, List.cons_append, List.cons_append], hc⟩

lemma IsSegment.head {w : List Char} {s : Segment} (h : IsSegment w s) :
    ∃ c t, w = c :: t ∧ (c = '.' ∨ c = '[') := by
  cases h with
  | child => exact ⟨_, _, rfl, .inl rfl⟩
  | descendant => exact ⟨_, _, rfl, .inl rfl⟩
  | bracketed => exact ⟨_, _, rfl, .inr rfl⟩
  | descendantBracketed => exact ⟨_, _, rfl, .inl rfl⟩

/-! ### What may follow -/

/-- A text that is at its end, or whose first character that is no blank is one of these. -/
def Ends (stops r : List Char) : Prop := ∀ c ∈ (skipBlanks r).head?, c ∈ stops

/-- What comes after a filter. -/
def closers : List Char := [')', ',', ']']

/-- What comes after an operand of `||`. -/
def alternativeStops : List Char := '|' :: closers

/-- What comes after an operand of `&&`. -/
def conjunctStops : List Char := '&' :: alternativeStops

/-- What comes after an operand of a comparison. -/
def operandStops : List Char := ['=', '!', '<', '>'] ++ conjunctStops

variable {stops stops' r b : List Char} {c : Char}

lemma ends_nil (stops : List Char) : Ends stops [] := by
  intro c hc
  cases hc

lemma ends_cons (hc : c ∈ stops) (hblank : isBlank c = false) (t : List Char) :
    Ends stops (c :: t) := by
  intro d hd
  rw [skipBlanks_cons hblank] at hd
  cases hd
  exact hc

lemma Ends.mono (h : Ends stops r) (hstops : stops ⊆ stops') : Ends stops' r :=
  fun c hc => hstops (h c hc)

lemma Ends.append_left (h : Ends stops r) (hb : Blanks b) : Ends stops (b ++ r) := by
  rw [Ends, hb.skipBlanks_append]
  exact h

lemma Ends.skipBlanks_ne (h : Ends stops r) (hc : c ∉ stops) (t : List Char) :
    skipBlanks r ≠ c :: t := by
  intro hr
  rw [Ends, hr] at h
  exact hc (h c rfl)

/-- The text after a token does not go on with the token. -/
lemma Ends.avoids (h : Ends stops r) {p : Char → Bool}
    (hp : p ' ' = false ∧ p '\t' = false ∧ p '\n' = false ∧ p '\r' = false)
    (hstops : stops.all (fun c => !p c) = true) : Avoids p r := by
  intro c hc
  cases r with
  | nil => cases hc
  | cons d r =>
    cases hc
    cases hblank : isBlank c with
    | true =>
      obtain ⟨h1, h2, h3, h4⟩ := hp
      rcases isBlank_cases hblank with rfl | rfl | rfl | rfl <;> assumption
    | false =>
      rw [Ends, skipBlanks_cons hblank] at h
      simpa using List.all_eq_true.1 hstops c (h c rfl)

end JsonQuery.Grammar
