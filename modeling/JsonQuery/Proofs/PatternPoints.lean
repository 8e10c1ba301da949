import JsonQuery.Regex.Pattern
import Mathlib.Tactic.Lemma
import Mathlib.Tactic.SplitIfs

/-!
The points of a pattern that are expanded. Sets between brackets nest, and right after its
opening bracket a set can have a closing bracket as a member. The expansion goes by the last
bracket alone: it is right about every point outside of sets, and about those points in sets
that do not stand behind a closing bracket.
-/

namespace JsonQuery.Pattern

/-! ### Sets between brackets -/

/-- Where in the innermost set one is: behind its opening bracket, behind the mark of negation,
or behind a member. -/
inductive Place where
  | opened
  | negated
  | inside
  deriving DecidableEq

/-- What has been seen of a pattern: whether a backslash is pending, how many sets are open, and
the place in the innermost one. -/
structure Sets where
  escaped : Bool := false
  depth : Nat := 0
  place : Place := .inside
  deriving DecidableEq

/-- The state after a character. An opening bracket opens a further set; a closing one closes the
innermost set, but right after the opening of a set, negated or not, it is a member. -/
def Sets.next (st : Sets) (c : Char) : Sets :=
  if st.escaped then ⟨false, st.depth, .inside⟩
  else if c = '\\' then ⟨true, st.depth, .inside⟩
  else if c = '[' then ⟨false, st.depth + 1, .opened⟩
  else if c = ']' ∧ st.place = .inside then ⟨false, st.depth - 1, .inside⟩
  else if c = '^' ∧ st.place = .opened then ⟨false, st.depth, .negated⟩
  else ⟨false, st.depth, .inside⟩

def Sets.after (u : List Char) : Sets := u.foldl Sets.next {}

/-- Whether a character behind that text is a construct of its own: it is not escaped, and in
no set. -/
def outside (u : List Char) : Bool := !(Sets.after u).escaped && (Sets.after u).depth == 0

/-- The brackets of a text that are not escaped. -/
def brackets (escaped : Bool) : List Char → List Char
  | [] => []
  | c :: s =>
    if escaped then brackets false s
    else if c = '\\' then brackets true s
    else if c = '[' ∨ c = ']' then c :: brackets false s
    else brackets false s

/-- Whether a character behind that text is in a set, not escaped, and the last bracket before
it is a closing one. -/
def behindClosing (u : List Char) : Bool :=
  !(Sets.after u).escaped && (Sets.after u).depth != 0 && (brackets false u).getLast? == some ']'

/-- The rest of a pattern with its points expanded where the text before them is chosen. -/
def expandAt (chosen : List Char → Bool) (before : List Char) : List Char → List Char
  | [] => []
  | c :: s =>
    (if c = '.' && chosen before then anyButLineEnd else [c]) ++ expandAt chosen (before ++ [c]) s

/-- The pattern with those points expanded that stand for any character. -/
def intended (pattern : String) : String := .ofList (expandAt outside [] pattern.toList)

/-! ### The scan -/

def Scan.after (u : List Char) : Scan := u.foldl Scan.next {}

lemma expand_eq_expandAt (before s : List Char) : expand (Scan.after before) s =
    expandAt (fun u => !(Scan.after u).escaped && !(Scan.after u).bracketed) before s := by
  induction s generalizing before with
  | nil => rfl
  | cons c s ih =>
    have hnext : (Scan.after before).next c = Scan.after (before ++ [c]) := by
      rw [Scan.after, Scan.after, List.foldl_append]
      rfl
    rw [expand, expandAt, hnext, ih, Scan.write, Bool.and_assoc]

/-- What the scan knows of the sets: outside of them no bracket is open for it. -/
structure Follows (scan : Scan) (sets : Sets) : Prop where
  escaped : scan.escaped = sets.escaped
  outside : sets.depth = 0 → scan.bracketed = false ∧ sets.place = .inside

lemma Follows.next {scan : Scan} {sets : Sets} (h : Follows scan sets) (c : Char) :
    Follows (scan.next c) (sets.next c) := by
  obtain ⟨escaped, bracketed⟩ := scan
  obtain ⟨escaped', depth, place⟩ := sets
  obtain ⟨rfl, houtside⟩ := h
  cases escaped with
  | true => exact ⟨rfl, fun h0 => ⟨(houtside h0).1, rfl⟩⟩
  | false =>
    simp only [Scan.next, Sets.next, Bool.false_eq_true, if_false]
    by_cases hback : c = '\\'
    · rw [if_pos hback, if_pos hback]
      exact ⟨rfl, fun h0 => ⟨(houtside h0).1, rfl⟩⟩
    rw [if_neg hback, if_neg hback]
    by_cases hopen : c = '['
    · rw [if_pos hopen, if_pos hopen]
      exact ⟨rfl, nofun⟩
    rw [if_neg hopen, if_neg hopen]
    by_cases hclose : c = ']'
    · rw [if_pos hclose]
      -- Whether the set has a member yet does not matter: no bracket is open for the scan.
      split_ifs with hmember hmark
      · exact ⟨rfl, fun _ => ⟨rfl, rfl⟩⟩
      · cases hclose.symm.trans hmark.1
      · exact ⟨rfl, fun _ => ⟨rfl, rfl⟩⟩
    · rw [if_neg hclose, if_neg fun h => hclose h.1]
      split_ifs with hmark
      · refine ⟨rfl, fun h0 => ?_⟩
        cases (houtside h0).2.symm.trans hmark.2
      · exact ⟨rfl, fun h0 => ⟨(houtside h0).1, rfl⟩⟩

lemma follows_foldl {scan : Scan} {sets : Sets} (h : Follows scan sets) (u : List Char) :
    Follows (u.foldl Scan.next scan) (u.foldl Sets.next sets) := by
  induction u generalizing scan sets with
  | nil => exact h
  | cons c u ih => exact ih (h.next c)

lemma follows_after (u : List Char) : Follows (Scan.after u) (Sets.after u) :=
  follows_foldl ⟨rfl, fun _ => ⟨rfl, rfl⟩⟩ u

lemma getLast?_cons_map (f : Char → Bool) (b : Bool) (c : Char) (s : List Char) :
    ((c :: s).getLast?.map f).getD b = (s.getLast?.map f).getD (f c) := by
  rw [List.getLast?_cons]
  cases s.getLast? <;> rfl

/-- The scan goes by the last bracket. -/
lemma bracketed_foldl (scan : Scan) (u : List Char) :
    (u.foldl Scan.next scan).bracketed =
      ((brackets scan.escaped u).getLast?.map (· == '[')).getD scan.bracketed := by
  induction u generalizing scan with
  | nil => rfl
  | cons c u ih =>
    obtain ⟨escaped, bracketed⟩ := scan
    rw [List.foldl_cons, ih, brackets]
    cases escaped with
    | true => rfl
    | false =>
      simp only [Scan.next, Bool.false_eq_true, if_false]
      by_cases hback : c = '\\'
      · rw [if_pos hback, if_pos hback]
      rw [if_neg hback, if_neg hback]
      by_cases hopen : c = '['
      · rw [if_pos hopen, if_pos (.inl hopen), getLast?_cons_map, hopen]
        rfl
      rw [if_neg hopen]
      by_cases hclose : c = ']'
      · rw [if_pos hclose, if_pos (.inr hclose), getLast?_cons_map, hclose]
        rfl
      · rw [if_neg hclose, if_neg (not_or.2 ⟨hopen, hclose⟩)]

/-- Without brackets no set is opened or closed. -/
lemma depth_foldl (sets : Sets) {u : List Char} (hu : brackets sets.escaped u = []) :
    (u.foldl Sets.next sets).depth = sets.depth := by
  induction u generalizing sets with
  | nil => rfl
  | cons c u ih =>
    obtain ⟨escaped, depth, place⟩ := sets
    rw [brackets] at hu
    rw [List.foldl_cons]
    cases escaped with
    | true => exact ih ⟨false, depth, .inside⟩ hu
    | false =>
      simp only [Bool.false_eq_true, if_false] at hu
      simp only [Sets.next, Bool.false_eq_true, if_false]
      by_cases hback : c = '\\'
      · rw [if_pos hback] at hu ⊢
        exact ih ⟨true, depth, .inside⟩ hu
      rw [if_neg hback] at hu ⊢
      by_cases hbracket : c = '[' ∨ c = ']'
      · rw [if_pos hbracket] at hu
        cases hu
      rw [if_neg hbracket] at hu
      rw [if_neg fun h => hbracket (.inl h), if_neg fun h => hbracket (.inr h.1)]
      split_ifs
      · exact ih ⟨false, depth, .negated⟩ hu
      · exact ih ⟨false, depth, .inside⟩ hu

lemma mem_brackets {c : Char} {escaped : Bool} {u : List Char} (hc : c ∈ brackets escaped u) :
    c = '[' ∨ c = ']' := by
  induction u generalizing escaped with
  | nil => cases hc
  | cons d u ih =>
    rw [brackets] at hc
    split_ifs at hc with hescaped hback hbracket
    · exact ih hc
    · exact ih hc
    · rcases List.mem_cons.1 hc with rfl | hc
      · exact hbracket
      · exact ih hc
    · exact ih hc

/-- In a set the last bracket is an opening one or a closing one. -/
lemma getLast?_brackets {u : List Char} (hu : (Sets.after u).depth ≠ 0) :
    (brackets false u).getLast? = some '[' ∨ (brackets false u).getLast? = some ']' := by
  cases hlast : (brackets false u).getLast? with
  | none => exact absurd (depth_foldl {} (List.getLast?_eq_none_iff.1 hlast)) hu
  | some c =>
    rcases mem_brackets (List.mem_of_getLast? hlast) with rfl | rfl
    · exact .inl rfl
    · exact .inr rfl

/-- The points that the scan expands. -/
lemma expands_eq (u : List Char) : (!(Scan.after u).escaped && !(Scan.after u).bracketed) =
    (outside u || behindClosing u) := by
  obtain ⟨hescaped, houtside⟩ := follows_after u
  have hlast : (Scan.after u).bracketed =
      ((brackets false u).getLast?.map (· == '[')).getD false := bracketed_foldl {} u
  rw [outside, behindClosing, hescaped]
  cases (Sets.after u).escaped with
  | true => rfl
  | false =>
    by_cases h0 : (Sets.after u).depth = 0
    · simp [h0, (houtside h0).1]
    · rcases getLast?_brackets h0 with h | h
      · simp [h0, hlast, h]
      · simp [h0, hlast, h]

/-! ### Where two expansions part -/

/-- What is written for a character tells whether it was expanded. -/
lemma written_append_inj {c : Char} {p q : Bool} {x y : List Char} :
    (if c = '.' && p then anyButLineEnd else [c]) ++ x =
        (if c = '.' && q then anyButLineEnd else [c]) ++ y ↔ (c = '.' → p = q) ∧ x = y := by
  have hexpanded : ∀ x y, anyButLineEnd ++ x ≠ ['.'] ++ y := by
    intro x y h
    cases h
  by_cases hc : c = '.'
  · subst hc
    cases p with
    | false =>
      cases q with
      | false => simp
      | true => simpa using (hexpanded y x).symm
    | true =>
      cases q with
      | false => simpa using hexpanded x y
      | true => simp
  · simp [hc]

lemma forall_point_cons (c : Char) (s : List Char) (holds : List Char → Prop) :
    (∀ u v, c :: s = u ++ '.' :: v → holds u) ↔
      (c = '.' → holds []) ∧ ∀ u v, s = u ++ '.' :: v → holds (c :: u) := by
  constructor
  · intro h
    refine ⟨?_, fun u v hs => h (c :: u) v (by rw [hs, List.cons_append])⟩
    rintro rfl
    exact h [] s rfl
  · rintro ⟨hnil, hcons⟩ u v hs
    cases u with
    | nil => exact hnil (List.cons.inj hs).1
    | cons d u =>
      obtain ⟨rfl, htail⟩ := List.cons.inj hs
      exact hcons u v htail

lemma expandAt_congr_iff (f g : List Char → Bool) (before s : List Char) :
    expandAt f before s = expandAt g before s ↔
      ∀ u v, s = u ++ '.' :: v → f (before ++ u) = g (before ++ u) := by
  induction s generalizing before with
  | nil => simp [expandAt]
  | cons c s ih =>
    rw [expandAt, expandAt, written_append_inj, ih, forall_point_cons, List.append_nil]
    simp only [List.append_assoc, List.singleton_append]

lemma normalize_eq (pattern : String) : normalize pattern =
    .ofList (expandAt (fun u => outside u || behindClosing u) [] pattern.toList) := by
  have hexpand := expand_eq_expandAt [] pattern.toList
  simp only [expands_eq] at hexpand
  exact congrArg String.ofList hexpand

/-- **Points outside of sets are expanded, and points in sets behind a closing bracket.** All
other characters are kept, so the expansion is the intended one unless a set has a point behind
a closing bracket. -/
theorem normalize_characterized (pattern : String) :
    normalize pattern =
        .ofList (expandAt (fun u => outside u || behindClosing u) [] pattern.toList) ∧
      (normalize pattern = intended pattern ↔
        ∀ u v, pattern.toList = u ++ '.' :: v → behindClosing u = false) := by
  refine ⟨normalize_eq pattern, ?_⟩
  have hcongr : ∀ u, (outside u || behindClosing u) = outside u ↔ behindClosing u = false := by
    intro u
    rw [outside, behindClosing]
    cases (Sets.after u).escaped <;> cases h0 : (Sets.after u).depth <;> simp
  rw [normalize_eq, intended, String.ofList_inj, expandAt_congr_iff]
  simp only [List.nil_append, hcongr]

/-- A point behind a nested set, and one behind a closing bracket that is the first member: each
is expanded although it is in a set. -/
theorem normalize_in_set :
    (normalize "[[a].]" = "[[a][^\\r\\n]]" ∧ normalize "[[a].]" ≠ intended "[[a].]") ∧
      normalize "[].]" = "[][^\\r\\n]]" ∧ normalize "[].]" ≠ intended "[].]" := by
  decide

end JsonQuery.Pattern
