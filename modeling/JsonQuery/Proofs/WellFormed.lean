import JsonQuery.Function.Basic
import JsonQuery.Proofs.Digits

/-!
Queries that a text can write. A well-formed query has a selector in every segment, no integer
beyond the safe magnitude, only finite numbers, and only names that can be called, at every
depth. Whatever the grammar derives is well-formed, and so is what equals a well-formed query.
-/

namespace JsonQuery

/-- An integer of a magnitude up to which doubles hold all of them. -/
def IsSafe (n : Int) : Prop := n.natAbs ≤ Double.maxSafe

structure Slice.WellFormed (s : Slice) : Prop where
  start : ∀ n ∈ s.start, IsSafe n
  stop : ∀ n ∈ s.stop, IsSafe n
  step : IsSafe s.step

def Numeral.IsFinite : Numeral → Prop
  | .finite _ => True
  | _ => False

def Literal.WellFormed : Literal → Prop
  | .number x => x.IsFinite
  | _ => True

mutual

def Selector.WellFormed : Selector → Prop
  | .name _ => True
  | .index position => IsSafe position
  | .wildcard => True
  | .slice slice => slice.WellFormed
  | .filter condition => condition.WellFormed

def Selector.AllWellFormed : List Selector → Prop
  | [] => True
  | s :: ss => s.WellFormed ∧ Selector.AllWellFormed ss

def Segment.WellFormed : Segment → Prop
  | ⟨_, selectors⟩ => selectors ≠ [] ∧ Selector.AllWellFormed selectors

def Segment.AllWellFormed : List Segment → Prop
  | [] => True
  | s :: ss => s.WellFormed ∧ Segment.AllWellFormed ss

def Filter.WellFormed : Filter → Prop
  | .literal value => value.WellFormed
  | .query _ segments => Segment.AllWellFormed segments
  | .not operand => operand.WellFormed
  | .binary _ left right => left.WellFormed ∧ right.WellFormed
  | .call name args => isFunctionName name = true ∧ Filter.AllWellFormed args

def Filter.AllWellFormed : List Filter → Prop
  | [] => True
  | f :: fs => f.WellFormed ∧ Filter.AllWellFormed fs

end

/-- A query that some text writes. -/
def Query.WellFormed (q : Query) : Prop := Segment.AllWellFormed q

lemma Selector.allWellFormed_iff (ss : List Selector) :
    Selector.AllWellFormed ss ↔ ∀ s ∈ ss, s.WellFormed := by
  induction ss with
  | nil => simp [Selector.AllWellFormed]
  | cons s ss ih => simp [Selector.AllWellFormed, ih]

lemma Segment.allWellFormed_iff (ss : List Segment) :
    Segment.AllWellFormed ss ↔ ∀ s ∈ ss, s.WellFormed := by
  induction ss with
  | nil => simp [Segment.AllWellFormed]
  | cons s ss ih => simp [Segment.AllWellFormed, ih]

lemma Filter.allWellFormed_iff (fs : List Filter) :
    Filter.AllWellFormed fs ↔ ∀ f ∈ fs, f.WellFormed := by
  induction fs with
  | nil => simp [Filter.AllWellFormed]
  | cons f fs ih => simp [Filter.AllWellFormed, ih]

/-! ### What equals a well-formed query -/

lemma Numeral.isFinite_of_same {x y : Numeral} (h : x.same y = true) (hx : x.IsFinite) :
    y.IsFinite := by
  cases x with
  | finite x =>
    cases y with
    | finite y => trivial
    | _ => cases h
  | _ => cases hx

lemma Literal.wellFormed_of_same {a b : Literal} (h : a.same b = true) (ha : a.WellFormed) :
    b.WellFormed := by
  cases b with
  | number y =>
    cases a with
    | number x => exact Numeral.isFinite_of_same h ha
    | _ => cases h
  | _ => trivial

mutual

theorem Selector.wellFormed_of_same (a b : Selector) (h : a.same b = true) (ha : a.WellFormed) :
    b.WellFormed := by
  cases b with
  | name | wildcard => trivial
  | index n =>
    cases a with
    | index m =>
      obtain rfl : m = n := by simpa [Selector.same] using h
      exact ha
    | _ => simp [Selector.same] at h
  | slice t =>
    cases a with
    | slice s =>
      obtain rfl : s = t := by simpa [Selector.same] using h
      exact ha
    | _ => simp [Selector.same] at h
  | filter g =>
    cases a with
    | filter f =>
      rw [Selector.same] at h
      exact Filter.wellFormed_of_same f g h ha
    | _ => simp [Selector.same] at h

theorem Selector.allWellFormed_of_same (as bs : List Selector) (h : Selector.allSame as bs = true)
    (hs : Selector.AllWellFormed as) : (as ≠ [] → bs ≠ []) ∧ Selector.AllWellFormed bs := by
  cases as with
  | nil =>
    cases bs with
    | nil => exact ⟨id, hs⟩
    | cons b bs => simp [Selector.allSame] at h
  | cons a as =>
    cases bs with
    | nil => simp [Selector.allSame] at h
    | cons b bs =>
      rw [Selector.allSame, Bool.and_eq_true] at h
      exact ⟨fun _ => List.cons_ne_nil b bs, Selector.wellFormed_of_same a b h.1 hs.1,
        (Selector.allWellFormed_of_same as bs h.2 hs.2).2⟩

theorem Segment.wellFormed_of_same (a b : Segment) (h : a.same b = true) (ha : a.WellFormed) :
    b.WellFormed := by
  cases a with
  | mk d ss =>
    cases b with
    | mk e ts =>
      rw [Segment.same, Bool.and_eq_true] at h
      obtain ⟨hne, hall⟩ := Selector.allWellFormed_of_same ss ts h.2 ha.2
      exact ⟨hne ha.1, hall⟩

theorem Segment.allWellFormed_of_same (as bs : List Segment) (h : Segment.allSame as bs = true)
    (hs : Segment.AllWellFormed as) : Segment.AllWellFormed bs := by
  cases as with
  | nil =>
    cases bs with
    | nil => exact hs
    | cons b bs => simp [Segment.allSame] at h
  | cons a as =>
    cases bs with
    | nil => simp [Segment.allSame] at h
    | cons b bs =>
      rw [Segment.allSame, Bool.and_eq_true] at h
      exact ⟨Segment.wellFormed_of_same a b h.1 hs.1,
        Segment.allWellFormed_of_same as bs h.2 hs.2⟩

theorem Filter.wellFormed_of_same (f g : Filter) (h : f.same g = true) (hf : f.WellFormed) :
    g.WellFormed := by
  cases f with
  | literal a =>
    cases g with
    | literal b =>
      rw [Filter.same] at h
      exact Literal.wellFormed_of_same h hf
    | _ => simp [Filter.same] at h
  | query o ss =>
    cases g with
    | query p ts =>
      rw [Filter.same, Bool.and_eq_true] at h
      exact Segment.allWellFormed_of_same ss ts h.2 hf
    | _ => simp [Filter.same] at h
  | not f =>
    cases g with
    | not g =>
      rw [Filter.same] at h
      exact Filter.wellFormed_of_same f g h hf
    | _ => simp [Filter.same] at h
  | binary o f f' =>
    cases g with
    | binary p g g' =>
      rw [Filter.same, Bool.and_eq_true, Bool.and_eq_true] at h
      exact ⟨Filter.wellFormed_of_same f g h.1.2 hf.1, Filter.wellFormed_of_same f' g' h.2 hf.2⟩
    | _ => simp [Filter.same] at h
  | call m fs =>
    cases g with
    | call n gs =>
      rw [Filter.same, Bool.and_eq_true, beq_iff_eq] at h
      exact ⟨h.1 ▸ hf.1, Filter.allWellFormed_of_same fs gs h.2 hf.2⟩
    | _ => simp [Filter.same] at h

theorem Filter.allWellFormed_of_same (fs gs : List Filter) (h : Filter.allSame fs gs = true)
    (hs : Filter.AllWellFormed fs) : Filter.AllWellFormed gs := by
  cases fs with
  | nil =>
    cases gs with
    | nil => exact hs
    | cons g gs => simp [Filter.allSame] at h
  | cons f fs =>
    cases gs with
    | nil => simp [Filter.allSame] at h
    | cons g gs =>
      rw [Filter.allSame, Bool.and_eq_true] at h
      exact ⟨Filter.wellFormed_of_same f g h.1 hs.1, Filter.allWellFormed_of_same fs gs h.2 hs.2⟩

end

/-! A well-formed query equals itself, since its numbers do. -/

lemma Literal.same_self {a : Literal} (h : a.WellFormed) : a.same a = true := by
  cases a with
  | number x =>
    cases x with
    | finite x => simp [Literal.same, Numeral.same, Double.order]
    | _ => cases h
  | _ => simp [Literal.same]

mutual

theorem Selector.same_self : (a : Selector) → a.WellFormed → a.same a = true
  | .name _, _ => by simp [Selector.same]
  | .index _, _ => by simp [Selector.same]
  | .wildcard, _ => by simp [Selector.same]
  | .slice _, _ => by simp [Selector.same]
  | .filter f, h => by
    rw [Selector.same]
    exact Filter.same_self f h

theorem Selector.allSame_self :
    (as : List Selector) → Selector.AllWellFormed as → Selector.allSame as as = true
  | [], _ => by rw [Selector.allSame]
  | a :: as, h => by
    rw [Selector.allSame, Selector.same_self a h.1, Selector.allSame_self as h.2]
    rfl

theorem Segment.same_self : (a : Segment) → a.WellFormed → a.same a = true
  | ⟨_, ss⟩, h => by
    rw [Segment.same, Selector.allSame_self ss h.2, beq_self_eq_true]
    rfl

theorem Segment.allSame_self :
    (as : List Segment) → Segment.AllWellFormed as → Segment.allSame as as = true
  | [], _ => by rw [Segment.allSame]
  | a :: as, h => by
    rw [Segment.allSame, Segment.same_self a h.1, Segment.allSame_self as h.2]
    rfl

theorem Filter.same_self : (f : Filter) → f.WellFormed → f.same f = true
  | .literal _, h => by
    rw [Filter.same]
    exact Literal.same_self h
  | .query _ ss, h => by
    rw [Filter.same, Segment.allSame_self ss h, beq_self_eq_true]
    rfl
  | .not f, h => by
    rw [Filter.same]
    exact Filter.same_self f h
  | .binary _ f g, h => by
    rw [Filter.same, Filter.same_self f h.1, Filter.same_self g h.2, beq_self_eq_true]
    rfl
  | .call _ fs, h => by
    rw [Filter.same, Filter.allSame_self fs h.2, beq_self_eq_true]
    rfl

theorem Filter.allSame_self :
    (fs : List Filter) → Filter.AllWellFormed fs → Filter.allSame fs fs = true
  | [], _ => by rw [Filter.allSame]
  | f :: fs, h => by
    rw [Filter.allSame, Filter.same_self f h.1, Filter.allSame_self fs h.2]
    rfl

end

/-! ### What the grammar derives -/

namespace Grammar

/-- The names of the grammar are the ones that functions can have. -/
lemma isName_iff {n : List Char} : IsName n ↔ isFunctionName (.ofList n) = true := by
  cases n with
  | nil => simp [IsName, Token.name?, isFunctionName]
  | cons c n =>
    rw [IsName, Token.name?]
    split_ifs with hc
    · simp [Parsed.plain, isFunctionName, hc]
    · simp [isFunctionName, hc]

lemma IsBound.isSafe {w : List Char} {bound : Option Int} (h : IsBound w bound) :
    ∀ n ∈ bound, IsSafe n := by
  rintro n hn
  cases h with
  | absent => cases hn
  | int h hb =>
    cases hn
    exact natAbs_le_of_isInt h

lemma isSafe_one : IsSafe 1 := by
  unfold IsSafe
  decide

lemma IsStep.isSafe {w : List Char} {step : Int} (h : IsStep w step) : IsSafe step := by
  cases h with
  | absent => exact isSafe_one
  | @written b w n hb h =>
    cases n with
    | none => exact isSafe_one
    | some n => exact h.isSafe n rfl

lemma IsSlice.wellFormed {w : List Char} {s : Slice} (h : IsSlice w s) : s.WellFormed := by
  cases h with
  | intro hv hb hw hx => exact ⟨hv.isSafe, hw.isSafe, hx.isSafe⟩

lemma IsShorthand.wellFormed {w : List Char} {s : Selector} (h : IsShorthand w s) :
    s.WellFormed := by
  cases h <;> trivial

mutual

theorem IsSegments.wellFormed {w : List Char} {ss : List Segment} :
    IsSegments w ss → Segment.AllWellFormed ss
  | .nil => trivial
  | .cons _ h hs => ⟨h.wellFormed, hs.wellFormed⟩

theorem IsSegment.wellFormed {w : List Char} {s : Segment} : IsSegment w s → s.WellFormed
  | .child h => ⟨List.cons_ne_nil _ _, h.wellFormed, trivial⟩
  | .descendant h => ⟨List.cons_ne_nil _ _, h.wellFormed, trivial⟩
  | .bracketed _ h => h.wellFormed
  | .descendantBracketed _ h => h.wellFormed

theorem IsSelectors.wellFormed {w : List Char} {ss : List Selector} :
    IsSelectors w ss → ss ≠ [] ∧ Selector.AllWellFormed ss
  | .one h _ => ⟨List.cons_ne_nil _ _, h.wellFormed, trivial⟩
  | .cons h _ _ hs => ⟨List.cons_ne_nil _ _, h.wellFormed, hs.wellFormed.2⟩

theorem IsSelector.wellFormed {w : List Char} {s : Selector} : IsSelector w s → s.WellFormed
  | .wildcard => trivial
  | .name _ => trivial
  | .filter h => h.wellFormed
  | .index h => natAbs_le_of_isInt h
  | .slice h => h.wellFormed

theorem IsFilter.wellFormed {w : List Char} {f : Filter} : IsFilter w f → f.WellFormed
  | .one h => h.wellFormed
  | .or h h' => ⟨h.wellFormed, h'.wellFormed⟩

theorem IsConjunction.wellFormed {w : List Char} {f : Filter} : IsConjunction w f → f.WellFormed
  | .one h => h.wellFormed
  | .and h h' => ⟨h.wellFormed, h'.wellFormed⟩

theorem IsComparison.wellFormed {w : List Char} {f : Filter} : IsComparison w f → f.WellFormed
  | .one h => h.wellFormed
  | .compare _ h h' => ⟨h.wellFormed, h'.wellFormed⟩

theorem IsOperand.wellFormed {w : List Char} {f : Filter} : IsOperand w f → f.WellFormed
  | .not _ h => h.wellFormed
  | .primary _ h _ => h.wellFormed

theorem IsPrimary.wellFormed {w : List Char} {f : Filter} : IsPrimary w f → f.WellFormed
  | .parens h => h.wellFormed
  | .string _ => trivial
  | .number _ => trivial
  | .wordTrue => trivial
  | .wordFalse => trivial
  | .wordNull => trivial
  | .query h => h.wellFormed
  | .callEmpty hn _ => ⟨isName_iff.1 hn, trivial⟩
  | .call hn h => ⟨isName_iff.1 hn, h.wellFormed⟩

theorem IsArguments.wellFormed {w : List Char} {args : List Filter} :
    IsArguments w args → Filter.AllWellFormed args
  | .one h => ⟨h.wellFormed, trivial⟩
  | .cons h hs => ⟨h.wellFormed, hs.wellFormed⟩

end

theorem IsQuery.wellFormed {w : List Char} {q : Query} (h : IsQuery w q) : q.WellFormed := by
  obtain ⟨ws, -, hs⟩ := h
  exact hs.wellFormed

end Grammar

end JsonQuery
