import JsonQuery.Proofs.Blanks
import JsonQuery.Proofs.Shortest
import JsonQuery.Proofs.Spellings
import JsonQuery.Proofs.WellFormed

/-!
The canonical text of a well-formed query derives the query. An expression is derived by the
part of the grammar that its precedence belongs to; parentheses stand where an operand is of
a lower precedence than its place asks for, and make any expression an operand.
-/

namespace JsonQuery.Grammar

/-! ### Precedence -/

/-- The part of the grammar for expressions of at least that precedence. -/
def Binds (level : Nat) (w : List Char) (f : Filter) : Prop :=
  match level with
  | 0 | 1 => IsFilter w f
  | 2 => IsConjunction w f
  | 3 => IsComparison w f
  | _ => IsOperand w f

section Precedence

variable {w v : List Char} {f g : Filter} {level : Nat}

lemma blanks_space : Blanks [' '] := by
  intro c hc
  rw [List.mem_singleton.1 hc]
  rfl

lemma Binds.pred (h : Binds (level + 1) w f) : Binds level w f := by
  match level with
  | 0 => exact h
  | 1 => exact IsFilter.one h
  | 2 => exact IsConjunction.one h
  | 3 => exact IsComparison.one h
  | _ + 4 => exact h

/-- What holds together more tightly can stand for what does so less tightly. -/
lemma Binds.mono {level' : Nat} (h : Binds level' w f) (hle : level ≤ level') :
    Binds level w f := by
  induction hle with
  | refl => exact h
  | step _ ih => exact ih h.pred

lemma IsOperand.binds (h : IsOperand w f) : Binds 255 w f := h

lemma IsPrimary.isOperand (h : IsPrimary w f) : IsOperand w f := by
  have hoperand := IsOperand.primary blanks_nil h blanks_nil
  rwa [List.nil_append, List.append_nil] at hoperand

lemma IsOperand.isFilter (h : IsOperand w f) : IsFilter w f := .one (.one (.one h))

lemma one_le_precedence (op : Operator) : 1 ≤ op.precedence := by cases op <;> decide

lemma Binds.isFilter (h : Binds f.precedence w f) : IsFilter w f := by
  have hle : 1 ≤ f.precedence := by
    cases f with
    | binary op => exact one_le_precedence op
    | _ => exact (by decide : 1 ≤ 255)
  exact h.mono hle

/-- An operand that is not put in parentheses is tight enough for its place. -/
lemma Binds.parenthesized {wrap : Bool} (h : Binds f.precedence w f) (hlevel : level ≤ 255)
    (hwrap : wrap = false → level ≤ f.precedence) : Binds level (parenthesized wrap w) f := by
  cases wrap with
  | false => exact h.mono (hwrap rfl)
  | true => exact (IsPrimary.parens h.isFilter).isOperand.binds.mono hlevel

lemma precedence_of_isComparison {op : Operator} (h : op.isComparison = true) :
    op.precedence = 3 := by
  cases op with
  | or | and => cases h
  | _ => rfl

/-- The precedence that an operator asks of its left operand: a comparison takes no comparison. -/
def leftLevel (op : Operator) : Nat := if op.isComparison then 4 else op.precedence

lemma leftLevel_le {op : Operator} (h : f.wrapsLeft op = false) :
    leftLevel op ≤ f.precedence := by
  simp only [Filter.wrapsLeft, Bool.or_eq_false_iff, decide_eq_false_iff_not, Nat.not_lt,
    Bool.and_eq_false_iff, beq_eq_false_iff_ne] at h
  rw [leftLevel]
  split_ifs with hop
  · have hthree := precedence_of_isComparison hop
    omega
  · exact h.1

lemma succ_precedence_le {op : Operator} (h : f.wrapsRight op = false) :
    op.precedence + 1 ≤ f.precedence := by
  rw [Filter.wrapsRight, decide_eq_false_iff_not] at h
  omega

lemma Binds.binary {op : Operator} (h : Binds (leftLevel op) v f)
    (h' : Binds (op.precedence + 1) w g) :
    Binds op.precedence (v ++ ' ' :: op.symbol.toList ++ ' ' :: w) (.binary op f g) := by
  have htext : v ++ ' ' :: op.symbol.toList ++ ' ' :: w =
      (v ++ [' ']) ++ (op.symbol.toList ++ ([' '] ++ w)) := by simp
  rw [htext]
  by_cases hop : op.isComparison = true
  · have hlevel : leftLevel op = 4 := if_pos hop
    have hthree := precedence_of_isComparison hop
    rw [hlevel] at h
    rw [hthree] at h' ⊢
    rw [← List.append_assoc]
    exact IsComparison.compare hop (h.append_blanks blanks_space) (h'.prepend_blanks blanks_space)
  · cases op with
    | or => exact IsFilter.or (h.append_blanks blanks_space) (h'.prepend_blanks blanks_space)
    | and => exact IsConjunction.and (h.append_blanks blanks_space) (h'.prepend_blanks blanks_space)
    | _ => exact absurd rfl hop

end Precedence

/-! ### Slices and literals -/

lemma isBound_some {n : Int} (h : IsSafe n) : IsBound (intChars n) (some n) := by
  have hbound := IsBound.int (isInt_intChars h) blanks_nil
  rwa [List.append_nil] at hbound

lemma isBound_chars {bound : Option Int} (h : ∀ n ∈ bound, IsSafe n) :
    IsBound (bound.elim [] intChars) bound := by
  cases bound with
  | none => exact .absent
  | some n => exact isBound_some (h n rfl)

lemma isStep_chars {step : Int} (h : IsSafe step) :
    IsStep (if step = 1 then [] else ':' :: intChars step) step := by
  split_ifs with hone
  · rw [hone]
    exact .absent
  · exact .written blanks_nil (isBound_some h)

lemma isSlice_chars {s : Slice} (h : s.WellFormed) : IsSlice s.chars s := by
  have htext : s.chars = s.start.elim [] intChars ++ ':' :: [] ++ s.stop.elim [] intChars ++
      (if s.step = 1 then [] else ':' :: intChars s.step) := by
    simp [Slice.chars]
  rw [htext]
  exact .intro (isBound_chars h.start) blanks_nil (isBound_chars h.stop) (isStep_chars h.step)

lemma isPrimary_literal {l : Literal} (h : l.WellFormed) : IsPrimary l.chars (.literal l) := by
  cases l with
  | null => exact .wordNull
  | bool b =>
    cases b with
    | true => exact .wordTrue
    | false => exact .wordFalse
  | number x =>
    cases x with
    | finite x => exact .number x.isNumber_plainChars
    | _ => cases h
  | string s => exact .string (StringLiteral.isString_quoted s)

/-! ### Queries -/

mutual

theorem isSelector_chars : (s : Selector) → s.WellFormed → IsSelector s.chars s
  | .name key, _ => .name (StringLiteral.isString_quoted key)
  | .index _, h => .index (isInt_intChars h)
  | .wildcard, _ => .wildcard
  | .slice _, h => .slice (isSlice_chars h)
  | .filter f, h => .filter (binds_chars f h).isFilter

theorem isSelectors_chars : (ss : List Selector) → ss ≠ [] → Selector.AllWellFormed ss →
    IsSelectors (commaBlank.intercalate (Selector.charsOfAll ss)) ss
  | [], hne, _ => absurd rfl hne
  | [s], _, h => by
    have hone := IsSelectors.one (isSelector_chars s h.1) blanks_nil
    simpa [Selector.charsOfAll] using hone
  | s :: s' :: ss, _, h => by
    have hcons := IsSelectors.cons (isSelector_chars s h.1) blanks_nil blanks_space
      (isSelectors_chars (s' :: ss) (List.cons_ne_nil s' ss) h.2)
    rw [Selector.charsOfAll, Selector.charsOfAll, List.intercalate_cons_cons]
    simpa [commaBlank, Selector.charsOfAll] using hcons

theorem isSegment_chars : (s : Segment) → s.WellFormed → IsSegment s.chars s
  | ⟨false, ss⟩, h => .bracketed blanks_nil (isSelectors_chars ss h.1 h.2)
  | ⟨true, ss⟩, h => .descendantBracketed blanks_nil (isSelectors_chars ss h.1 h.2)

theorem isSegments_chars : (ss : List Segment) → Segment.AllWellFormed ss →
    IsSegments (Segment.charsOfAll ss) ss
  | [], _ => .nil
  | s :: ss, h => .cons blanks_nil (isSegment_chars s h.1) (isSegments_chars ss h.2)

theorem binds_chars : (f : Filter) → f.WellFormed → Binds f.precedence f.chars f
  | .literal _, h => (isPrimary_literal h).isOperand.binds
  | .query _ ss, h => (IsPrimary.query (isSegments_chars ss h)).isOperand.binds
  | .not f, h => by
    have hoperand : Binds 255 (parenthesized f.wrapsNegated f.chars) f :=
      (binds_chars f h).parenthesized (le_refl 255) fun hwrap => by
        simpa [Filter.wrapsNegated] using hwrap
    exact (IsOperand.not blanks_nil hoperand).binds
  | .binary op f g, h => by
    refine Binds.binary ((binds_chars f h.1).parenthesized ?_ leftLevel_le)
      ((binds_chars g h.2).parenthesized ?_ succ_precedence_le)
    · cases op <;> decide
    · cases op <;> decide
  | .call name [], h => by
    have hname : IsName name.toList := isName_iff.2 (by simpa using h.1)
    have hcall := (IsPrimary.callEmpty hname blanks_nil).isOperand.binds
    rwa [String.ofList_toList] at hcall
  | .call name (f :: fs), h => by
    have hname : IsName name.toList := isName_iff.2 (by simpa using h.1)
    have hcall := (IsPrimary.call hname
      (isArguments_chars (f :: fs) (List.cons_ne_nil f fs) h.2)).isOperand.binds
    rwa [String.ofList_toList] at hcall

theorem isArguments_chars : (fs : List Filter) → fs ≠ [] → Filter.AllWellFormed fs →
    IsArguments (commaBlank.intercalate (Filter.charsOfAll fs)) fs
  | [], hne, _ => absurd rfl hne
  | [f], _, h => by
    have hone := IsArguments.one (binds_chars f h.1).isFilter
    simpa [Filter.charsOfAll] using hone
  | f :: f' :: fs, _, h => by
    have hrest := isArguments_chars (f' :: fs) (List.cons_ne_nil f' fs) h.2
    rw [Filter.charsOfAll, Filter.charsOfAll, List.intercalate_cons_cons, List.append_assoc]
    exact .cons (binds_chars f h.1).isFilter (hrest.prepend_blanks blanks_space)

end

/-- **The canonical text derives the query.** -/
theorem isQuery_chars {q : Query} (h : q.WellFormed) : IsQuery q.chars q :=
  ⟨_, rfl, isSegments_chars q h⟩

end JsonQuery.Grammar
