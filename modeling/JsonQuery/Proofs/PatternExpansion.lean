import JsonQuery.Function.Builtin
import JsonQuery.Proofs.PatternPoints

/-!
Expanding a pattern once more, and expanding it between anchors. A point is expanded only where
no backslash is pending and no bracket is open, and the set that is written for it leaves the
scan there. So a pattern and its expansion lead the scan to the same state: in the expansion no
point is left to expand, and what stands behind it is expanded as behind the pattern itself.
-/

namespace JsonQuery

namespace Pattern

/-! ### One character -/

/-- A character is kept, or it is a point that the scan meets in its first state. -/
lemma write_cases (st : Scan) (c : Char) :
    st.write c = [c] ∨ c = '.' ∧ st = {} ∧ st.write c = anyButLineEnd := by
  obtain ⟨escaped, bracketed⟩ := st
  rw [Scan.write]
  split_ifs with h
  · simp only [Bool.and_eq_true, decide_eq_true_eq, Bool.not_eq_true'] at h
    obtain ⟨⟨rfl, rfl⟩, rfl⟩ := h
    exact .inr ⟨rfl, rfl, rfl⟩
  · exact .inl rfl

lemma write_of_ne (st : Scan) {c : Char} (hc : c ≠ '.') : st.write c = [c] :=
  (write_cases st c).resolve_right fun h => hc h.1

/-- What is written for a character leads the scan where the character does. -/
lemma foldl_write (st : Scan) (c : Char) : (st.write c).foldl Scan.next st = st.next c := by
  obtain h | ⟨rfl, rfl, h⟩ := write_cases st c
  · rw [h]
    rfl
  · -- The set opens one bracket and closes it, and neither of its backslashes is left pending.
    rw [h]
    decide

/-- What is written for a character is expanded no further. -/
lemma expand_write (st : Scan) (c : Char) : expand st (st.write c) = st.write c := by
  obtain h | ⟨rfl, rfl, h⟩ := write_cases st c
  · rw [h, expand, expand, h]
    rfl
  · rw [h]
    decide

/-! ### Texts -/

lemma expand_append (st : Scan) (s t : List Char) :
    expand st (s ++ t) = expand st s ++ expand (s.foldl Scan.next st) t := by
  induction s generalizing st with
  | nil => rfl
  | cons c s ih =>
    rw [List.cons_append, expand, expand, ih, List.append_assoc, List.foldl_cons]

/-- A text and its expansion lead the scan to the same state. -/
lemma foldl_expand (st : Scan) (s : List Char) :
    (expand st s).foldl Scan.next st = s.foldl Scan.next st := by
  induction s generalizing st with
  | nil => rfl
  | cons c s ih => rw [expand, List.foldl_append, foldl_write, ih, List.foldl_cons]

lemma expand_expand (st : Scan) (s : List Char) : expand st (expand st s) = expand st s := by
  induction s generalizing st with
  | nil => rfl
  | cons c s ih =>
    calc expand st (st.write c ++ expand (st.next c) s)
        = expand st (st.write c) ++
            expand ((st.write c).foldl Scan.next st) (expand (st.next c) s) := expand_append ..
      _ = st.write c ++ expand (st.next c) (expand (st.next c) s) := by
            rw [expand_write, foldl_write]
      _ = st.write c ++ expand (st.next c) s := by rw [ih]

/-- Behind an expansion a text is expanded as behind the text that was expanded. -/
lemma expand_expand_append (st : Scan) (s t : List Char) :
    expand st (expand st s ++ t) = expand st (s ++ t) := by
  rw [expand_append, expand_expand, foldl_expand, ← expand_append]

lemma expand_of_notMem (st : Scan) {s : List Char} (hs : '.' ∉ s) : expand st s = s := by
  induction s generalizing st with
  | nil => rfl
  | cons c s ih =>
    have hc : c ≠ '.' := (List.ne_of_not_mem_cons hs).symm
    rw [expand, write_of_ne st hc, ih _ (List.not_mem_of_not_mem_cons hs)]
    rfl

/-! ### Patterns -/

lemma normalize_normalize_append (pattern behind : String) :
    normalize (normalize pattern ++ behind) = normalize (pattern ++ behind) := by
  rw [normalize, normalize, normalize, String.toList_append, String.toList_append,
    String.toList_ofList, expand_expand_append]

/-- Texts without points are kept on either side of a pattern, if the one before it leaves the
scan in its first state. The state in which the pattern leaves the scan does not matter. -/
lemma normalize_between {before behind : String} (hbefore : '.' ∉ before.toList)
    (hstart : Scan.after before.toList = {}) (hbehind : '.' ∉ behind.toList) (pattern : String) :
    normalize (before ++ pattern ++ behind) = before ++ normalize pattern ++ behind := by
  rw [Scan.after] at hstart
  apply String.toList_injective
  simp only [normalize, String.toList_append, String.toList_ofList]
  rw [expand_append, expand_append, hstart, expand_of_notMem _ hbefore,
    expand_of_notMem _ hbehind]

lemma final_whole (pattern : String) :
    final .whole pattern = "^(?:" ++ normalize pattern ++ ")$" :=
  normalize_between (by decide) (by decide) (by decide) pattern

lemma expandAt_never (before s : List Char) : expandAt (fun _ => false) before s = s := by
  induction s generalizing before with
  | nil => rfl
  | cons c s ih =>
    rw [expandAt, Bool.and_false, ih]
    rfl

/-- A pattern is kept if the scan meets none of its points in its first state. -/
lemma normalize_eq_self_iff (pattern : String) : normalize pattern = pattern ↔
    ∀ u v, pattern.toList = u ++ '.' :: v →
      (Scan.after u).escaped = true ∨ (Scan.after u).bracketed = true := by
  calc normalize pattern = pattern
      ↔ expand (Scan.after []) pattern.toList = expandAt (fun _ => false) [] pattern.toList := by
        rw [← String.toList_inj, normalize, String.toList_ofList, expandAt_never]
        rfl
    _ ↔ ∀ u v, pattern.toList = u ++ '.' :: v →
          (Scan.after u).escaped = true ∨ (Scan.after u).bracketed = true := by
        rw [expand_eq_expandAt, expandAt_congr_iff]
        simp only [List.nil_append, Bool.and_eq_false_iff, Bool.not_eq_false']

/-- **Expansion is stable, and anchors around a pattern do not disturb it.** What has been expanded
is kept by a further expansion; a pattern is kept exactly if for the scan each of its points is
escaped or behind an open bracket. Where the whole of a text has to match, the pattern that is
read is the expanded one between anchors, even if the pattern leaves a bracket open or ends in a
backslash. -/
theorem normalize_stable (pattern : String) :
    normalize (normalize pattern) = normalize pattern ∧
      (normalize pattern = pattern ↔
        ∀ u v, pattern.toList = u ++ '.' :: v →
          (Scan.after u).escaped = true ∨ (Scan.after u).bracketed = true) ∧
      normalize ("^(?:" ++ pattern ++ ")$") = "^(?:" ++ normalize pattern ++ ")$" ∧
      ∀ (a b : Value) (text : String), a.string? = some text → b.string? = some pattern →
        Builtin.patternArgs .whole [a, b] = some (text, "^(?:" ++ normalize pattern ++ ")$") := by
  have hstable : normalize (normalize pattern) = normalize pattern := by
    simpa only [String.append_empty] using normalize_normalize_append pattern ""
  refine ⟨hstable, normalize_eq_self_iff pattern, final_whole pattern, ?_⟩
  intro a b text ha hb
  simp [Builtin.patternArgs, ha, hb, final_whole]

/-- A point before a bracket that stays open, one behind it, and a backslash at the end. -/
theorem open_bracket_stable :
    normalize ".[.\\" = "[^\\r\\n][.\\" ∧
      normalize (normalize ".[.\\") = normalize ".[.\\" ∧
      normalize ("^(?:" ++ ".[.\\" ++ ")$") = "^(?:" ++ normalize ".[.\\" ++ ")$" ∧
      (Value.scalar (.string "a")).string? = some "a" ∧
      (Value.nodes [.string ".[.\\"]).string? = some ".[.\\" ∧
      Builtin.patternArgs .whole [.scalar (.string "a"), .nodes [.string ".[.\\"]] =
        some ("a", "^(?:" ++ normalize ".[.\\" ++ ")$") :=
  have h := normalize_stable ".[.\\"
  ⟨by decide, h.1, h.2.2.1, rfl, rfl, h.2.2.2 _ _ _ rfl rfl⟩

end Pattern
end JsonQuery
