import JsonQuery.Proofs.GrammarSound
import JsonQuery.Proofs.GrammarComplete

/-!
Parsing is deriving. A text is parsed to a query exactly if the grammar derives the query from
the text, and the text does not end with white space.
-/

namespace JsonQuery

open Reading Grammar

/-- A text that does not end with white space. -/
def Trimmed (s : List Char) : Prop := ∀ c, s.getLast? = some c → isWhiteSpace c = false

lemma toOption_eq_some_iff {ε α : Type} {x : Except ε α} {a : α} :
    x.toOption = some a ↔ x = .ok a := by
  cases x with
  | error e => exact ⟨nofun, nofun⟩
  | ok b => exact ⟨fun h => congrArg Except.ok (Option.some.inj h), fun h => by cases h; rfl⟩

/-- What is read after the root, if nothing but blanks is left over. -/
lemma toOption_query (t : List Char) : (query ('$' :: t)).toOption =
    (taken (segments t)).bind fun p => if skipBlanks p.2 = [] then some p.1 else none := by
  rw [query]
  rcases segments t with e | path
  · rfl
  · simp only [bind, Except.bind, taken_ok, Parsed.plain, Option.bind_some]
    split
    · rename_i hblank
      rw [if_pos hblank]
      rfl
    · rename_i hne
      rw [if_neg hne]
      rfl

lemma segments_of_query {s : List Char} {q : Query} (h : query s = .ok q) :
    ∃ t rest, s = '$' :: t ∧ taken (segments t) = some (q, rest) ∧ skipBlanks rest = [] := by
  obtain ⟨t, rfl⟩ : ∃ t, s = '$' :: t := by
    unfold query at h
    split at h
    · exact ⟨_, rfl⟩
    · cases h
  rw [← toOption_eq_some_iff, toOption_query] at h
  obtain ⟨⟨ss, rest⟩, hread, hblank⟩ := Option.bind_eq_some_iff.1 h
  split_ifs at hblank with hrest
  cases hblank
  exact ⟨t, rest, rfl, hread, hrest⟩

lemma query_of_segments {t : List Char} {q : Query} (h : taken (segments t) = some (q, [])) :
    query ('$' :: t) = .ok q := by
  rw [← toOption_eq_some_iff, toOption_query, h, Option.bind_some]
  rfl

lemma query_of_isQuery {w : List Char} {q : Query} (h : IsQuery w q) : query w = .ok q := by
  obtain ⟨ws, rfl, hs⟩ := h
  have hread := segments_complete hs [] (ends_nil _)
  rw [List.append_nil] at hread
  exact query_of_segments hread

/-- The grammar is unambiguous. -/
theorem Grammar.IsQuery.unique {w : List Char} {q q' : Query} (h : IsQuery w q)
    (h' : IsQuery w q') : q = q' := by
  have hread := query_of_isQuery h
  rw [query_of_isQuery h'] at hread
  exact (Except.ok.inj hread).symm

/-- No blanks are left at the end of a text that does not end with white space. -/
lemma eq_nil_of_trimmed {s w rest : List Char} (hs : Trimmed s) (h : s = w ++ rest)
    (hrest : skipBlanks rest = []) : rest = [] := by
  obtain ⟨b, hb, heq⟩ := exists_blanks rest
  rw [hrest, List.append_nil] at heq
  subst heq
  rcases List.eq_nil_or_concat rest with hnil | ⟨b, c, rfl⟩
  · exact hnil
  · have hblank : isBlank c = true := hb c (by simp)
    have hlast := hs c (by rw [h]; simp)
    rw [isWhiteSpace_of_isBlank hblank] at hlast
    cases hlast

lemma text_eq_query {s : List Char} (hs : Trimmed s) (hhead : ∃ t, s = '$' :: t) :
    text s = query s := by
  obtain ⟨t, rfl⟩ := hhead
  have hlast : (('$' :: t).getLast?.any isWhiteSpace) = false := by
    cases h : ('$' :: t).getLast? with
    | none => rfl
    | some c => exact hs c h
  have hpadded : isPadded ('$' :: t) = false := by
    rw [isPadded, hlast]
    rfl
  rw [text, hpadded]
  rfl

lemma query_of_text {s : List Char} {q : Query} (h : text s = .ok q) :
    Trimmed s ∧ query s = .ok q := by
  rw [text] at h
  split_ifs at h with hpadded
  · cases h
  · refine ⟨fun c hc => ?_, h⟩
    simp only [isPadded, hc, Option.any_some] at hpadded
    simp_all

theorem text_eq_ok_iff (s : List Char) (q : Query) :
    text s = .ok q ↔ Trimmed s ∧ IsQuery s q := by
  constructor
  · intro h
    obtain ⟨hs, hq⟩ := query_of_text h
    obtain ⟨t, rest, rfl, ht, hrest⟩ := segments_of_query hq
    obtain ⟨w, rfl, hw⟩ := segments_sound ht
    obtain rfl := eq_nil_of_trimmed hs (w := '$' :: w) rfl hrest
    exact ⟨hs, w, by rw [List.append_nil], hw⟩
  · rintro ⟨hs, hq⟩
    have ⟨w, hw, _⟩ := hq
    rw [text_eq_query hs ⟨w, hw⟩, query_of_isQuery hq]

lemma Query.parse_eq_ok_iff_text (input : String) (q : Query) :
    Query.parse input = .ok q ↔ Reading.text input.toList = .ok q := by
  rw [Query.parse]
  cases Reading.text input.toList with
  | error f => simp
  | ok q' => simp

/-- **Parsing is deriving.** -/
theorem Query.parse_eq_ok_iff (input : String) (q : Query) :
    Query.parse input = .ok q ↔
      (∀ c, input.toList.getLast? = some c → isWhiteSpace c = false) ∧ IsQuery input.toList q := by
  rw [Query.parse_eq_ok_iff_text, text_eq_ok_iff, Trimmed]

end JsonQuery
