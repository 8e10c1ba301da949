import JsonQuery.Proofs.Tokens

/-!
Blanks between tokens. They are skipped before a token and after one, so in a filter they can
stand at either end of any expression.
-/

namespace JsonQuery.Grammar

lemma blanks_nil : Blanks [] := by
  intro c hc
  cases hc

lemma Blanks.append {b b' : List Char} (h : Blanks b) (h' : Blanks b') : Blanks (b ++ b') := by
  intro c hc
  rcases List.mem_append.1 hc with hc | hc
  · exact h c hc
  · exact h' c hc

/-- A text is blanks and what is left after them. -/
lemma exists_blanks (s : List Char) : ∃ b, Blanks b ∧ s = b ++ skipBlanks s :=
  ⟨s.takeWhile isBlank, fun _ hc => List.mem_takeWhile_imp hc,
    List.takeWhile_append_dropWhile.symm⟩

lemma Blanks.skipBlanks_append {b : List Char} (hb : Blanks b) (s : List Char) :
    skipBlanks (b ++ s) = skipBlanks s :=
  List.dropWhile_append_of_pos hb

lemma skipBlanks_cons {c : Char} (h : isBlank c = false) (s : List Char) :
    skipBlanks (c :: s) = c :: s := by
  rw [skipBlanks, List.dropWhile_cons_of_neg (by simp [h])]

@[simp] lemma skipBlanks_skipBlanks (s : List Char) : skipBlanks (skipBlanks s) = skipBlanks s :=
  (avoids_dropWhile isBlank s).dropWhile_eq

/-! ### Blanks around a filter -/

section Around

variable {w b : List Char} {f : Filter}

theorem IsOperand.append_blanks {w b : List Char} {f : Filter} :
    IsOperand w f → Blanks b → IsOperand (w ++ b) f
  | .not hb h, hb' => by
    rw [List.append_assoc, List.cons_append]
    exact .not hb (h.append_blanks hb')
  | .primary hb h hb', hb'' => by
    rw [List.append_assoc]
    exact .primary hb h (hb'.append hb'')

lemma IsComparison.append_blanks (h : IsComparison w f) (hb : Blanks b) :
    IsComparison (w ++ b) f := by
  cases h with
  | one h => exact .one (h.append_blanks hb)
  | compare hop h h' =>
    rw [List.append_assoc]
    exact .compare hop h (h'.append_blanks hb)

lemma IsConjunction.append_blanks (h : IsConjunction w f) (hb : Blanks b) :
    IsConjunction (w ++ b) f := by
  cases h with
  | one h => exact .one (h.append_blanks hb)
  | and h h' =>
    rw [List.append_assoc]
    exact .and h (h'.append_blanks hb)

lemma IsFilter.append_blanks (h : IsFilter w f) (hb : Blanks b) : IsFilter (w ++ b) f := by
  cases h with
  | one h => exact .one (h.append_blanks hb)
  | or h h' =>
    rw [List.append_assoc]
    exact .or h (h'.append_blanks hb)

lemma IsOperand.prepend_blanks (h : IsOperand w f) (hb : Blanks b) : IsOperand (b ++ w) f := by
  cases h with
  | not hb' h =>
    rw [← List.append_assoc]
    exact .not (hb.append hb') h
  | primary hb' h hb'' =>
    rw [← List.append_assoc, ← List.append_assoc]
    exact .primary (hb.append hb') h hb''

lemma IsComparison.prepend_blanks (h : IsComparison w f) (hb : Blanks b) :
    IsComparison (b ++ w) f := by
  cases h with
  | one h => exact .one (h.prepend_blanks hb)
  | compare hop h h' =>
    rw [← List.append_assoc, ← List.append_assoc]
    exact .compare hop (h.prepend_blanks hb) h'

theorem IsConjunction.prepend_blanks {w b : List Char} {f : Filter} :
    IsConjunction w f → Blanks b → IsConjunction (b ++ w) f
  | .one h, hb => .one (h.prepend_blanks hb)
  | .and h h', hb => by
    rw [← List.append_assoc]
    exact .and (h.prepend_blanks hb) h'

theorem IsFilter.prepend_blanks {w b : List Char} {f : Filter} :
    IsFilter w f → Blanks b → IsFilter (b ++ w) f
  | .one h, hb => .one (h.prepend_blanks hb)
  | .or h h', hb => by
    rw [← List.append_assoc]
    exact .or (h.prepend_blanks hb) h'

lemma IsArguments.prepend_blanks {args : List Filter} (h : IsArguments w args) (hb : Blanks b) :
    IsArguments (b ++ w) args := by
  cases h with
  | one h => exact .one (h.prepend_blanks hb)
  | cons h hs =>
    rw [← List.append_assoc]
    exact .cons (h.prepend_blanks hb) hs

end Around

end JsonQuery.Grammar
