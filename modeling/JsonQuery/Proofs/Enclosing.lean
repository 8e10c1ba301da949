import JsonQuery.Proofs.PatternExpansion
import JsonQuery.Proofs.PatternGroups

/-!
Matching the whole of a text. A pattern that has to match all of a text is read between
`^(?:` and `)$`. If the pattern stands by itself, so that the parenthesis behind it closes the
group before it, that is the same expression between anchors: it is valid exactly if the
pattern is, and it matches exactly if the expression of the pattern matches the whole text.

A pattern that does not stand by itself is read otherwise: it may close the group, as `)(`
does, or have a comment open in which the parenthesis is lost.
-/

namespace JsonQuery

namespace Regex

/-- What is read of a pattern as the body of a group, and what is left over. -/
def reading (s : List Char) : Option (Closed × List Char) := plain (({} : Flags).group [] {} s)

/-- The limits of depth and size. -/
def Item.Fits (item : Item) : Prop := item.depth ≤ depthLimit ∧ item.regex.shape.fits = true

instance (item : Item) : Decidable item.Fits := inferInstanceAs (Decidable (_ ∧ _))

/-- An item between anchors. -/
def Item.enclosed (item : Item) : Item := ⟨item.regex.enclosed, item.depth + 2, false⟩

lemma parse?_eq_some_iff {pattern : String} {r : Regex} :
    parse? pattern = some r ↔
      ∃ closed, reading pattern.toList = some (closed, []) ∧ closed.item.Fits ∧
        closed.item.regex = r := by
  rw [parse?, reading]
  cases ({} : Flags).group [] {} pattern.toList with
  | none => simp
  | some whole =>
    simp only [bind, Option.bind_some, plain_some, Parsed.plain, Bool.and_eq_true,
      List.isEmpty_iff, decide_eq_true_eq, and_assoc, Option.some.injEq, Prod.mk.injEq]
    constructor
    · intro h
      split_ifs at h with hfits
      exact ⟨whole.value, rfl, hfits.1, hfits.2, Option.some.inj h⟩
    · rintro ⟨closed, rfl, hrest, hfits, rfl⟩
      exact if_pos ⟨hrest, hfits⟩

lemma proper_of_parse? {pattern : String} {r : Regex} (h : parse? pattern = some r) :
    r.Proper := by
  obtain ⟨closed, hread, -, rfl⟩ := parse?_eq_some_iff.1 h
  exact proper_of_group _ .empty hread

/-! ### The reading of an enclosed pattern -/

/-- The start of the text is the first item, and the group is the second. -/
def anchored (body : Item) : OpenGroup :=
  (({} : OpenGroup).add ⟨.look .textStart, 0, false⟩).add
    ⟨.group false body.regex, body.depth + 1, false⟩

lemma reading_opened (s : List Char) :
    reading ('^' :: '(' :: '?' :: ':' :: s) = (reading s).bind fun q => match q.2 with
      | [] => none
      | e :: u =>
        if e = ')' then plain (({} : Flags).group q.1.names (anchored q.1.item) u) else none := by
  have hskip : ∀ s, ({} : Flags).skip s = s := fun _ => rfl
  have hstart : plain (({} : Flags).primitive ('^' :: '(' :: '?' :: ':' :: s)) =
      some (⟨.look .textStart, 0, false⟩, '(' :: '?' :: ':' :: s) := rfl
  have hopening : plain (({} : Flags).opening ('?' :: ':' :: s)) =
      some (.group false {} none, s) := rfl
  rw [reading, plain_group, hskip]
  dsimp only
  rw [if_neg (by decide), if_neg (by decide), if_neg (by decide), if_neg (by decide),
    if_neg (by decide), show repetition? '^' = none from rfl]
  dsimp only
  rw [hstart, Option.bind_some, plain_group, hskip]
  dsimp only
  rw [if_neg (by decide), if_neg (by decide), if_pos rfl, hskip, hopening, Option.bind_some]
  rfl

lemma close_anchored (body : Item) :
    ((anchored body).add ⟨.look .textEnd, 0, false⟩).close = body.enclosed := by
  have hdepth : max (max (max 0 0) (body.depth + 1)) 0 + 1 = body.depth + 2 := by omega
  rw [Item.enclosed, ← hdepth]
  rfl

lemma group_anchor (names : List (List Char)) (body : Item) :
    plain (({} : Flags).group names (anchored body) ['$']) = some (⟨body.enclosed, names⟩, []) := by
  have hskip : ∀ s, ({} : Flags).skip s = s := fun _ => rfl
  have hend : plain (({} : Flags).primitive ['$']) = some (⟨.look .textEnd, 0, false⟩, []) := rfl
  rw [plain_group, hskip]
  dsimp only
  rw [if_neg (by decide), if_neg (by decide), if_neg (by decide), if_neg (by decide),
    if_neg (by decide), show repetition? '$' = none from rfl]
  dsimp only
  rw [hend, Option.bind_some, plain_group, hskip]
  dsimp only
  rw [close_anchored]

/-- A pattern between `^(?:` and `)$` -/
def enclosedText (s : List Char) : List Char := '^' :: '(' :: '?' :: ':' :: (s ++ [')'] ++ ['$'])

/-- A text that is no body of a group is none in parentheses either. -/
lemma reading_enclosedText_of_none {s : List Char} (h : reading s = none) :
    reading (enclosedText s) = none := by
  have hclosed : Exhausts (reading (s ++ [')'])) := by
    obtain ⟨a, r, hx, -⟩ | ⟨-, hy, -⟩ := group_appended {} (.inl rfl) [] {} s
    · exact nomatch h.symm.trans hx
    · exact hy
  rw [enclosedText, reading_opened]
  obtain ⟨a, r, hx, hy⟩ | ⟨-, hy, -⟩ := group_appended {} (.inr rfl) [] {} (s ++ [')'])
  · obtain rfl := hclosed a r hx
    rw [reading, hy]
    rfl
  · cases hread : reading (s ++ [')'] ++ ['$']) with
    | none => rfl
    | some q => rw [Option.bind_some, hy q.1 q.2 hread]

/-- The body of a group is the same in parentheses, if the closing one is left over. -/
lemma reading_enclosedText_of_some {s : List Char} {closed : Closed}
    (h : reading s = some (closed, []))
    (hends : ∀ q ∈ reading (s ++ [')']), q.2 ≠ []) :
    reading (enclosedText s) = some (⟨closed.item.enclosed, closed.names⟩, []) := by
  have hclosed : reading (s ++ [')']) = some (closed, [')']) := by
    obtain ⟨a, r, hx, hy⟩ | ⟨hx, -, hnone | hsame | hdollar⟩ :=
      group_appended {} (.inl rfl) [] {} s
    · cases h.symm.trans hx
      exact hy
    · exact nomatch h.symm.trans hnone
    · exact absurd rfl (hends _ (hsame.symm.trans h))
    · cases hdollar
  have hanchor : reading (s ++ [')'] ++ ['$']) = some (closed, [')', '$']) := by
    obtain ⟨a, r, hx, hy⟩ | ⟨hx, -⟩ := group_appended {} (.inr rfl) [] {} (s ++ [')'])
    · cases hclosed.symm.trans hx
      exact hy
    · exact nomatch hx _ _ hclosed
  rw [enclosedText, reading_opened, hanchor, Option.bind_some]
  exact group_anchor closed.names closed.item

end Regex

namespace Pattern

lemma toList_final_whole (pattern : String) :
    (final .whole pattern).toList = Regex.enclosedText (normalize pattern).toList := by
  have hstart : "^(?:".toList = ['^', '(', '?', ':'] := rfl
  have hend : ")$".toList = [')', '$'] := rfl
  rw [final_whole, String.toList_append, String.toList_append, hstart, hend, Regex.enclosedText,
    List.append_assoc _ [')'] ['$']]
  rfl

/-- A pattern that is not changed by what stands around it. -/
structure StandsAlone (pattern : String) : Prop where
  /-- It closes no group that it has not opened. -/
  closes : ∀ q ∈ Regex.reading (normalize pattern).toList, q.2 = []
  /-- If it can be read, a parenthesis after it is not lost in a comment. -/
  ends : ∀ q ∈ Regex.reading (normalize pattern).toList,
    ∀ q' ∈ Regex.reading ((normalize pattern).toList ++ [')']), q'.2 ≠ []
  /-- The limits of depth and size do not tell it from the expression between anchors. -/
  fits : ∀ q ∈ Regex.reading (normalize pattern).toList,
    (q.1.item.Fits ↔ q.1.item.enclosed.Fits)

instance (pattern : String) : Decidable (StandsAlone pattern) :=
  decidable_of_iff
    ((∀ q ∈ Regex.reading (normalize pattern).toList, q.2 = []) ∧
      (∀ q ∈ Regex.reading (normalize pattern).toList,
        ∀ q' ∈ Regex.reading ((normalize pattern).toList ++ [')']), q'.2 ≠ []) ∧
      ∀ q ∈ Regex.reading (normalize pattern).toList, (q.1.item.Fits ↔ q.1.item.enclosed.Fits))
    ⟨fun ⟨closes, ends, fits⟩ => ⟨closes, ends, fits⟩,
      fun ⟨closes, ends, fits⟩ => ⟨closes, ends, fits⟩⟩

example : StandsAlone "a|b\\)." ∧ StandsAlone "(a" ∧ StandsAlone "a\\" := by decide +kernel

example : ¬StandsAlone "a)(b" ∧ ¬StandsAlone "(?x)a#" := by decide +kernel

/-- A pattern that stands by itself is read between anchors as it is read alone. -/
lemma parse?_final_whole {pattern : String} (h : StandsAlone pattern) :
    Regex.parse? (final .whole pattern) =
      (Regex.parse? (normalize pattern)).map Regex.enclosed := by
  ext r
  rw [Option.map_eq_some_iff, Regex.parse?_eq_some_iff, toList_final_whole]
  constructor
  · rintro ⟨closed, hread, hfits, rfl⟩
    cases hs : Regex.reading (normalize pattern).toList with
    | none => exact nomatch (Regex.reading_enclosedText_of_none hs).symm.trans hread
    | some p =>
      obtain ⟨body, rest⟩ := p
      obtain rfl := h.closes _ hs
      cases (Regex.reading_enclosedText_of_some hs (h.ends _ hs)).symm.trans hread
      exact ⟨body.item.regex, Regex.parse?_eq_some_iff.2
        ⟨body, hs, (h.fits _ hs).2 hfits, rfl⟩, rfl⟩
  · rintro ⟨r, hr, rfl⟩
    obtain ⟨body, hs, hfits, rfl⟩ := Regex.parse?_eq_some_iff.1 hr
    exact ⟨_, Regex.reading_enclosedText_of_some hs (h.ends _ hs), (h.fits _ hs).1 hfits, rfl⟩

end Pattern

namespace Builtin

lemma matchValue_eq_nothing_iff {text : String} {r : Option Regex} :
    matchValue text r = .nothing ↔ r = none := by
  cases r with
  | none => exact ⟨fun _ => rfl, fun _ => rfl⟩
  | some r => exact ⟨nofun, nofun⟩

lemma matchValue_eq_true_iff {text : String} {r : Option Regex} :
    matchValue text r = .bool true ↔ r.any (·.isMatch text) = true := by
  cases r with
  | none => exact ⟨nofun, nofun⟩
  | some r => simp [matchValue, Value.bool]

lemma evaluate_pattern (use : PatternUse) {a b : Value} {text pattern : String}
    (ha : a.string? = some text) (hb : b.string? = some pattern) :
    (Builtin.pattern use).evaluate [a, b] =
      matchValue text (Regex.parse? (Pattern.final use pattern)) := by
  simp [Builtin.pattern, matchOf, patternArgs, ha, hb]

/-- **Both functions read a pattern as the same expression**, if it stands by itself. Either
function gives nothing exactly if the pattern is not valid; else `match` tells whether the
expression matches the whole of the text, and `search` whether it matches a part of it. -/
theorem match_and_search_agree (a b : Value) (text pattern : String)
    (ha : a.string? = some text) (hb : b.string? = some pattern)
    (h : Pattern.StandsAlone pattern) :
    ((Builtin.pattern .whole).evaluate [a, b] = .nothing ↔
        Regex.parse? (Pattern.normalize pattern) = none) ∧
      ((Builtin.pattern .part).evaluate [a, b] = .nothing ↔
        Regex.parse? (Pattern.normalize pattern) = none) ∧
      (∀ r, Regex.parse? (Pattern.normalize pattern) = some r →
        ((Builtin.pattern .whole).evaluate [a, b] = .bool true ↔
            r.Matches text.toList.toArray 0 text.toList.length) ∧
          ((Builtin.pattern .part).evaluate [a, b] = .bool true ↔
            ∃ i ≤ text.toList.length, ∃ j, r.Matches text.toList.toArray i j)) ∧
      ((Builtin.pattern .whole).evaluate [a, b] = .bool true →
        (Builtin.pattern .part).evaluate [a, b] = .bool true) := by
  rw [evaluate_pattern .whole ha hb, evaluate_pattern .part ha hb,
    Pattern.parse?_final_whole h, Pattern.final, matchValue_eq_nothing_iff,
    matchValue_eq_nothing_iff, Option.map_eq_none_iff]
  cases hr : Regex.parse? (Pattern.normalize pattern) with
  | none => exact ⟨Iff.rfl, Iff.rfl, nofun, nofun⟩
  | some r =>
    have hproper := Regex.proper_of_parse? hr
    rw [Option.map_some, matchValue_eq_true_iff, matchValue_eq_true_iff, Option.any_some,
      Option.any_some, Regex.isMatch_enclosed_iff hproper, Regex.isMatch_iff hproper]
    refine ⟨Iff.rfl, Iff.rfl, fun r' hr' => ?_, fun hm => ⟨0, Nat.zero_le _, _, hm⟩⟩
    cases hr'
    exact ⟨Iff.rfl, Iff.rfl⟩

/-- An alternative at either end of a pattern is within the group, and an escaped parenthesis
does not close it. -/
theorem alternatives_agree :
    Pattern.StandsAlone "a|b\\)." ∧
      ((Builtin.pattern .whole).evaluate
          [.scalar (.string "b)c"), .nodes [.string "a|b\\)."]] = .nothing ↔
        Regex.parse? (Pattern.normalize "a|b\\).") = none) ∧
      ((Builtin.pattern .part).evaluate
          [.scalar (.string "b)c"), .nodes [.string "a|b\\)."]] = .nothing ↔
        Regex.parse? (Pattern.normalize "a|b\\).") = none) ∧
      (∀ r, Regex.parse? (Pattern.normalize "a|b\\).") = some r →
        ((Builtin.pattern .whole).evaluate
            [.scalar (.string "b)c"), .nodes [.string "a|b\\)."]] = .bool true ↔
          r.Matches "b)c".toList.toArray 0 "b)c".toList.length) ∧
        ((Builtin.pattern .part).evaluate
            [.scalar (.string "b)c"), .nodes [.string "a|b\\)."]] = .bool true ↔
          ∃ i ≤ "b)c".toList.length, ∃ j, r.Matches "b)c".toList.toArray i j)) ∧
      ((Builtin.pattern .whole).evaluate
          [.scalar (.string "b)c"), .nodes [.string "a|b\\)."]] = .bool true →
        (Builtin.pattern .part).evaluate
          [.scalar (.string "b)c"), .nodes [.string "a|b\\)."]] = .bool true) :=
  have h : Pattern.StandsAlone "a|b\\)." := by decide +kernel
  ⟨h, match_and_search_agree _ _ _ _ rfl rfl h⟩

/-- A pattern that closes the group around it is refused by `search` and applied by `match`. -/
theorem match_of_unbalanced :
    (Builtin.pattern .whole).evaluate [.scalar (.string "ab"), .scalar (.string "a)(b")] =
        .bool true ∧
      (Builtin.pattern .part).evaluate [.scalar (.string "ab"), .scalar (.string "a)(b")] =
        .nothing ∧
      Regex.parse? (Pattern.normalize "a)(b") = none := by
  have hnone : Regex.parse? (Pattern.normalize "a)(b") = none :=
    Option.isNone_iff_eq_none.1 (by decide +kernel)
  rw [evaluate_pattern .whole rfl rfl, evaluate_pattern .part rfl rfl, matchValue_eq_true_iff,
    matchValue_eq_nothing_iff, Pattern.final]
  exact ⟨by decide +kernel, hnone, hnone⟩

end Builtin

end JsonQuery
