import JsonQuery.Proofs.Prefixes
import Mathlib

/-!
The place that a parse error names. It is counted in bytes, and it never lies within a
character: the text before it and the remainder make up the query text. What stands before it
can be continued to a query text.
-/

namespace JsonQuery

/-! ### Bytes -/

section Bytes

lemma utf8Length_cons (c : Char) (s : List Char) :
    utf8Length (c :: s) = c.utf8Size + utf8Length s := by
  have hsum : ∀ s, utf8Length s = (s.map Char.utf8Size).sum := fun s => by
    rw [utf8Length, ← List.foldl_map, List.sum_eq_foldl]
  rw [hsum, hsum, List.map_cons, List.sum_cons]

lemma utf8ByteSize_ofList (s : List Char) : (String.ofList s).utf8ByteSize = utf8Length s := by
  induction s with
  | nil => rfl
  | cons c s ih =>
    rw [← List.singleton_append, String.ofList_append, String.utf8ByteSize_append, ih,
      ← String.singleton_eq_ofList, String.utf8ByteSize_singleton, List.singleton_append,
      utf8Length_cons]

lemma dropBytes?_append (v w : List Char) : dropBytes? (utf8Length v) (v ++ w) = some w := by
  induction v with
  | nil => rw [List.nil_append, utf8Length, List.foldl_nil, dropBytes?]
  | cons c v ih =>
    obtain ⟨n, hn⟩ := Nat.exists_eq_add_one.mpr c.utf8Size_pos
    have hlength : utf8Length (c :: v) = n + utf8Length v + 1 := by
      rw [utf8Length_cons, hn]
      omega
    rw [hlength, List.cons_append, dropBytes?, if_pos (by omega), hn]
    simpa using ih

/-- A place between two characters is known by the text that follows it. -/
lemma byteSize_sub_eq {input : String} {v w : List Char} (h : input.toList = v ++ w) :
    input.utf8ByteSize - utf8Length w = (String.ofList v).utf8ByteSize := by
  have hinput : input = String.ofList v ++ String.ofList w := by
    rw [← String.ofList_append, ← h, String.ofList_toList]
  rw [hinput, String.utf8ByteSize_append, utf8ByteSize_ofList w]
  exact Nat.add_sub_cancel ..

end Bytes

/-! ### Completing a query -/

namespace Grammar

lemma IsSegments.append {v w : List Char} {ss ts : List Segment} :
    IsSegments v ss → IsSegments w ts → IsSegments (v ++ w) (ss ++ ts)
  | .nil, hw => hw
  | .cons hb h hs, hw => by
    simpa using IsSegments.cons hb h (hs.append hw)

/-- A wildcard may follow any query, after blanks too. -/
lemma isSegments_wildcard {b : List Char} (hb : Blanks b) :
    IsSegments (b ++ ['.', '*']) [⟨false, [.wildcard]⟩] := by
  simpa using IsSegments.cons hb (.child .wildcard) .nil

lemma IsQuery.append {v w : List Char} {q : Query} {ss : List Segment} :
    IsQuery v q → IsSegments w ss → IsQuery (v ++ w) (q ++ ss)
  | ⟨u, hv, hs⟩, hw => ⟨u ++ w, by rw [hv, List.cons_append], hs.append hw⟩

end Grammar

open Grammar Reading

lemma isQuery_root : IsQuery ['$'] [] := ⟨[], rfl, .nil⟩

lemma query_stops {s r : List Char} (h : refused (query s) = some r) : Stops IsQuery s r := by
  rw [query.eq_def] at h
  split at h
  · rename_i t
    obtain h | ⟨path, hpath, h⟩ := refused_bind h
    · exact (segments_stops h).within ['$'] rfl fun {w ss} hw => ⟨ss, w, rfl, hw⟩
    · obtain ⟨w, ht, hw⟩ := segments_sound (taken_of_eq_ok hpath)
      obtain ⟨b, hb, hrest⟩ := exists_blanks path.rest
      split at h
      · cases h
      · cases h
        have hquery := IsQuery.append ⟨w, rfl, hw⟩ (isSegments_wildcard hb)
        refine .after (w := '$' :: (w ++ b)) ['.', '*'] ?_ (by simpa using hquery)
        rw [List.cons_append, List.append_assoc, ← hrest, ← ht]
  · cases h
    exact .here isQuery_root

/-- A text with white space around it is refused as a whole. -/
lemma text_stops {s r : List Char} (h : refused (text s) = some r) : Stops IsQuery s r := by
  rw [text] at h
  split_ifs at h
  · cases h
    exact .here isQuery_root
  · exact query_stops h

/-- The continuation can be chosen so that the text does not end with white space. -/
lemma exists_text_of_stops {s r : List Char} (h : Stops IsQuery s r) :
    ∃ w, s = w ++ r ∧ ∃ more q, text (w ++ more) = .ok q := by
  obtain ⟨w, rfl, more, q, hq⟩ := h
  refine ⟨w, rfl, more ++ ['.', '*'], q ++ [⟨false, [.wildcard]⟩], ?_⟩
  rw [text_eq_ok_iff, ← List.append_assoc]
  refine ⟨fun c hc => ?_, hq.append (isSegments_wildcard blanks_nil)⟩
  obtain rfl : '*' = c := by simpa using hc
  decide

/-- **Failures are at the first wrong place.** A parse error names a place between two
characters of the query text, and what stands before it begins a query text. -/
theorem Query.parse_error_completable (input : String) (e : ParseError)
    (h : Query.parse input = .error e) :
    ∃ before : String, input = before ++ e.remainder ∧ e.position = before.utf8ByteSize ∧
      ∃ (more : String) (q : Query), Query.parse (before ++ more) = .ok q := by
  rw [Query.parse] at h
  split at h
  · cases h
  · rename_i f hf
    cases h
    have hrefused : refused (Reading.text input.toList) = some f.rest := by rw [hf]; rfl
    obtain ⟨w, hw, more, q, hq⟩ := exists_text_of_stops (text_stops hrefused)
    have hposition := byteSize_sub_eq hw
    refine ⟨.ofList w, ?_, hposition, .ofList more, q, ?_⟩
    · rw [ParseError.remainder]
      dsimp only
      rw [hposition, utf8ByteSize_ofList, hw, dropBytes?_append, Option.getD_some,
        ← String.ofList_append, ← hw, String.ofList_toList]
    · rw [Query.parse_eq_ok_iff_text, ← String.ofList_append, String.toList_ofList]
      exact hq

/-- Within a string, the second half of a surrogate pair is missing. -/
theorem Query.parse_error_within_surrogates :
    Query.parse "$[?f((@.é == '\\uD83D!" =
        .error ⟨.badEscape, 21, "$[?f((@.é == '\\uD83D!"⟩ ∧
      ∃ before : String,
        "$[?f((@.é == '\\uD83D!" =
            before ++ ParseError.remainder ⟨.badEscape, 21, "$[?f((@.é == '\\uD83D!"⟩ ∧
          21 = before.utf8ByteSize ∧
          ∃ (more : String) (q : Query), Query.parse (before ++ more) = .ok q :=
  have h : Query.parse "$[?f((@.é == '\\uD83D!" =
      .error ⟨.badEscape, 21, "$[?f((@.é == '\\uD83D!"⟩ := by cbv
  ⟨h, Query.parse_error_completable _ _ h⟩

end JsonQuery
