import JsonQuery.Proofs.Canonical
import JsonQuery.Proofs.Parsing

/-!
The canonical text of a query parses back to the query exactly if the query is well-formed. One
direction is that the text derives the query, the other that only well-formed queries are
parsed, and that nothing else equals them.
-/

namespace JsonQuery

open Grammar

lemma Segment.exists_chars_eq (s : Segment) : ∃ w, s.chars = w ++ [']'] := by
  obtain ⟨d, ss⟩ := s
  exact ⟨_, rfl⟩

lemma Segment.charsOfAll_eq (ss : List Segment) :
    Segment.charsOfAll ss = [] ∨ ∃ w, Segment.charsOfAll ss = w ++ [']'] := by
  induction ss with
  | nil => exact .inl rfl
  | cons s ss ih =>
    obtain ⟨v, hv⟩ := s.exists_chars_eq
    refine .inr ?_
    rcases ih with hnil | ⟨w, hw⟩
    · exact ⟨v, by rw [charsOfAll, hnil, hv, List.append_nil]⟩
    · exact ⟨s.chars ++ w, by rw [charsOfAll, hw, List.append_assoc]⟩

/-- A canonical text ends with a bracket, or with the `$` that it begins with. -/
lemma Query.trimmed_chars (q : Query) : Trimmed q.chars := by
  intro c hc
  rw [Query.chars] at hc
  rcases Segment.charsOfAll_eq q with hnil | ⟨w, hw⟩
  · rw [hnil] at hc
    cases hc
    decide
  · rw [hw, ← List.cons_append, List.getLast?_append] at hc
    cases hc
    decide

lemma Query.wellFormed_of_parse {input : String} {q : Query} (h : Query.parse input = .ok q) :
    q.WellFormed := by
  rw [Query.parse_eq_ok_iff_text, text_eq_ok_iff] at h
  exact h.2.wellFormed

lemma Query.parse_text_of_wellFormed {q : Query} (h : q.WellFormed) :
    Query.parse q.text = .ok q := by
  rw [Query.parse_eq_ok_iff_text, text_eq_ok_iff, Query.text, String.toList_ofList]
  exact ⟨q.trimmed_chars, isQuery_chars h⟩

/-- **The round trip.** -/
theorem Query.parse_text_iff :
    (∀ q : Query, (∃ t, Query.parse q.text = .ok t ∧ (t == q) = true) ↔ q.WellFormed) ∧
      (∀ q : Query, Query.parse q.text = .ok q ↔ q.WellFormed) ∧
      ∀ (input : String) (t : Query), Query.parse input = .ok t →
        t.WellFormed ∧ Query.parse t.text = .ok t := by
  refine ⟨fun q => ⟨?_, fun h => ?_⟩, fun q => ⟨wellFormed_of_parse, parse_text_of_wellFormed⟩,
    fun input t h => ?_⟩
  · rintro ⟨t, ht, hsame⟩
    exact Segment.allWellFormed_of_same t q hsame (wellFormed_of_parse ht)
  · exact ⟨q, parse_text_of_wellFormed h, Segment.allSame_self q h⟩
  · have hwell := wellFormed_of_parse h
    exact ⟨hwell, parse_text_of_wellFormed hwell⟩

end JsonQuery
