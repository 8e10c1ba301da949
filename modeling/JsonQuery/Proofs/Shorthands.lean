import JsonQuery.Proofs.Parsing
import JsonQuery.Proofs.Positions

/-!
Member names without quotes. Between a point and what follows it a name is the same selector
as between brackets and quotes. Only at the end of a query the two part: the characters of
names include white space beyond the four blanks, and a query must not end with white space of
any kind.
-/

namespace JsonQuery

open Reading Grammar

/-- A name that needs no quotes after a point. -/
def IsMemberName (n : String) : Prop :=
  ∃ c cs, n.toList = c :: cs ∧ startsName c = true ∧ ∀ d ∈ cs, continuesName d = true

/-- A text whose last character is white space. -/
def endsWithSpace (t : String) : Bool := t.toList.getLast?.any isWhiteSpace

def IsQuote (c : Char) : Prop := c = '\'' ∨ c = '"'

/-- A name after one point, or after two. -/
def dotted (descendant : Bool) (n : String) : String :=
  (if descendant then ".." else ".") ++ n

/-- A name in quotes between brackets. -/
def bracketed (descendant : Bool) (quote : Char) (n : String) : String :=
  (if descendant then "..[" else "[") ++ .singleton quote ++ n ++ .singleton quote ++ "]"

/-! ### The characters of names -/

lemma IsMemberName.isName {n : String} (hn : IsMemberName n) : IsName n.toList := by
  obtain ⟨c, cs, hcs, hc, hall⟩ := hn
  rw [hcs, IsName, Token.name?, if_pos hc]
  simp [Parsed.plain, List.takeWhile_eq_self_iff.2 hall, List.dropWhile_eq_nil_iff.2 hall]

lemma IsMemberName.continues {n : String} (hn : IsMemberName n) :
    ∀ c ∈ n.toList, continuesName c = true := by
  obtain ⟨c, cs, hcs, hc, hall⟩ := hn
  rw [hcs]
  rintro d (_ | ⟨_, hd⟩)
  · simp [continuesName, hc]
  · exact hall d hd

lemma not_control_of_continuesName {c : Char} (hc : continuesName c = true) :
    ¬c.toNat < 0x20 := by
  have hnone : ∀ k < 0x20, continuesName (Char.ofNat k) = false := by decide
  intro hlt
  have := hnone c.toNat hlt
  rw [Char.ofNat_toNat, hc] at this
  cases this

/-- Characters that a string literal holds as they are. -/
lemma taken_readBody_plain {quote : Char} {cs : List Char}
    (hcs : ∀ c ∈ cs, c ≠ quote ∧ ¬c.toNat < 0x20 ∧ c ≠ '\\') (t : List Char) :
    taken (StringLiteral.readBody quote (cs ++ quote :: t)) = some (cs, t) := by
  induction cs with
  | nil =>
    rw [List.nil_append, StringLiteral.taken_readBody]
    exact if_pos rfl
  | cons c cs ih =>
    obtain ⟨hquote, hcontrol, hback⟩ := hcs c List.mem_cons_self
    rw [List.cons_append, StringLiteral.taken_readBody]
    simp only [if_neg hquote, if_neg hcontrol, if_neg hback]
    rw [ih fun d hd => hcs d (List.mem_cons_of_mem _ hd)]
    rfl

lemma IsMemberName.isString {n : String} (hn : IsMemberName n) {quote : Char}
    (hquote : IsQuote quote) : IsString (quote :: (n.toList ++ [quote])) n := by
  have hplain : ∀ c ∈ n.toList, c ≠ quote ∧ ¬c.toNat < 0x20 ∧ c ≠ '\\' := by
    intro c hc
    have hcont := hn.continues c hc
    refine ⟨?_, not_control_of_continuesName hcont, ne_of_class hcont (by decide)⟩
    rcases hquote with rfl | rfl
    · exact ne_of_class hcont (by decide)
    · exact ne_of_class hcont (by decide)
  rw [IsString, StringLiteral.taken_read]
  refine (if_pos hquote).trans ?_
  rw [taken_readBody_plain hplain, Option.map_some, String.ofList_toList]

/-! ### The two spellings of a segment -/

lemma isSegment_dotted {n : String} (hn : IsMemberName n) (descendant : Bool) :
    IsSegment (dotted descendant n).toList ⟨descendant, [.name n]⟩ := by
  have hname : IsShorthand n.toList (.name n) := by
    simpa using IsShorthand.name hn.isName
  cases descendant with
  | false => simpa [dotted] using IsSegment.child hname
  | true => simpa [dotted] using IsSegment.descendant hname

lemma isSegment_bracketed {n : String} (hn : IsMemberName n) (descendant : Bool) {quote : Char}
    (hquote : IsQuote quote) :
    IsSegment (bracketed descendant quote n).toList ⟨descendant, [.name n]⟩ := by
  have hone : IsSelectors (quote :: (n.toList ++ [quote])) [.name n] := by
    simpa using IsSelectors.one (.name (hn.isString hquote)) blanks_nil
  cases descendant with
  | false => simpa [bracketed] using IsSegment.bracketed blanks_nil hone
  | true => simpa [bracketed] using IsSegment.descendantBracketed blanks_nil hone

/-! ### Reading on after a segment -/

section ReadingOn

variable {w r : List Char} {s : Segment}

lemma taken_segments_append (h : IsSegment w s) (hr : Avoids continuesName r) :
    taken (segments (w ++ r)) = (taken (segments r)).map fun q => (s :: q.1, q.2) := by
  have hskip : skipBlanks (w ++ r) = w ++ r := by
    obtain ⟨c, t, rfl, rfl | rfl⟩ := h.head
    · exact skipBlanks_cons (by decide) _
    · exact skipBlanks_cons (by decide) _
  rw [taken_segments, hskip, segment_complete h r hr]
  rfl

lemma toOption_query_append (h : IsSegment w s) (hr : Avoids continuesName r) :
    (query ('$' :: (w ++ r))).toOption = (query ('$' :: r)).toOption.map (s :: ·) := by
  rw [toOption_query, toOption_query, taken_segments_append h hr]
  rcases taken (segments r) with _ | ⟨ss, rest⟩
  · rfl
  · simp only [Option.map_some, Option.bind_some]
    split_ifs
    · rfl
    · rfl

end ReadingOn

/-! ### The end of a query -/

lemma endsWithSpace_append {t : String} (ht : t ≠ "") (s : String) :
    endsWithSpace (s ++ t) = endsWithSpace t := by
  have hne : t.toList ≠ [] := by simpa using ht
  rw [endsWithSpace, endsWithSpace, String.toList_append, List.getLast?_append,
    List.getLast?_eq_some_getLast hne, Option.some_or]

/-- A text that begins with the root is read as a query, unless it ends with white space. -/
lemma text_root (t : String) : text ("$" ++ t).toList =
    if endsWithSpace t then fail .expectedRoot ("$" ++ t).toList else query ('$' :: t.toList) := by
  have hroot : ("$" ++ t).toList = '$' :: t.toList := by simp
  have hempty : ('$' :: t.toList).isEmpty = false := rfl
  have hhead : ('$' :: t.toList).head?.any isWhiteSpace = false := by
    rw [List.head?_cons, Option.any_some]
    decide
  have hlast : ('$' :: t.toList).getLast?.any isWhiteSpace = endsWithSpace t := by
    rw [endsWithSpace, List.getLast?_cons]
    cases t.toList.getLast? with
    | none => rfl
    | some c => rfl
  rw [hroot, text, isPadded, hempty, hhead, hlast, Bool.false_or, Bool.false_or]

lemma toOption_parse_root (t : String) : (Query.parse ("$" ++ t)).toOption =
    if endsWithSpace t then none else (query ('$' :: t.toList)).toOption := by
  have hparse : (Query.parse ("$" ++ t)).toOption = (text ("$" ++ t).toList).toOption := by
    rw [Query.parse]
    rcases text ("$" ++ t).toList with _ | _
    · rfl
    · rfl
  rw [hparse, text_root]
  split_ifs
  · rfl
  · rfl

lemma parse_root_of_endsWithSpace {t : String} (ht : endsWithSpace t = true) :
    Query.parse ("$" ++ t) = .error ⟨.expectedRoot, 0, "$" ++ t⟩ := by
  have hposition := byteSize_sub_eq (List.nil_append ("$" ++ t).toList).symm
  rw [Query.parse, text_root, if_pos ht]
  dsimp only [fail]
  rw [hposition]
  rfl

section Segments

variable {w : String} {s : Segment} (h : IsSegment w.toList s)
include h

lemma toOption_parse_append {r : String} (hr : Avoids continuesName r.toList) :
    (Query.parse ("$" ++ (w ++ r))).toOption =
      if endsWithSpace (w ++ r) then none
      else (query ('$' :: r.toList)).toOption.map (s :: ·) := by
  rw [toOption_parse_root, String.toList_append, toOption_query_append h hr]

/-- A segment before others. -/
lemma toOption_parse_before {r : String} (hne : r ≠ "") (hr : Avoids continuesName r.toList) :
    (Query.parse ("$" ++ (w ++ r))).toOption =
      (Query.parse ("$" ++ r)).toOption.map (s :: ·) := by
  rw [toOption_parse_append h hr, toOption_parse_root, endsWithSpace_append hne]
  split_ifs
  · rfl
  · rfl

/-- The only segment of a query. -/
lemma parse_alone (hw : endsWithSpace w = false) : Query.parse ("$" ++ w) = .ok [s] := by
  have hroot : query ['$'] = .ok [] := query_of_isQuery ⟨[], rfl, .nil⟩
  have hread := toOption_parse_append h (r := "") (avoids_nil _)
  rw [String.append_empty, hw, String.toList_empty, hroot] at hread
  exact toOption_eq_some_iff.1 hread

end Segments

/-! ### Names in queries -/

lemma endsWithSpace_dotted {n : String} (hn : IsMemberName n) (descendant : Bool) :
    endsWithSpace (dotted descendant n) = endsWithSpace n := by
  have hne : n ≠ "" := by
    rintro rfl
    obtain ⟨c, cs, hcs, -⟩ := hn
    cases hcs
  exact endsWithSpace_append hne _

lemma endsWithSpace_bracketed (descendant : Bool) (quote : Char) (n : String) :
    endsWithSpace (bracketed descendant quote n) = false := by
  rw [bracketed, endsWithSpace_append (by decide)]
  decide

/-- **A name is the same segment in each of its spellings**, alone and before further segments.
The exception is a name at the end of a query that itself ends with white space: with points
such a query is refused. -/
theorem Query.parse_member_name (n : String) (hn : IsMemberName n) (descendant : Bool) :
    Query.parse ("$" ++ dotted descendant n) =
        (if endsWithSpace n then .error ⟨.expectedRoot, 0, "$" ++ dotted descendant n⟩
          else .ok [⟨descendant, [.name n]⟩]) ∧
      (∀ quote, IsQuote quote →
        Query.parse ("$" ++ bracketed descendant quote n) = .ok [⟨descendant, [.name n]⟩]) ∧
      ∀ rest, rest ≠ "" → Avoids continuesName rest.toList →
        (Query.parse ("$" ++ (dotted descendant n ++ rest))).toOption =
            (Query.parse ("$" ++ rest)).toOption.map (⟨descendant, [.name n]⟩ :: ·) ∧
          ∀ quote, IsQuote quote →
            (Query.parse ("$" ++ (bracketed descendant quote n ++ rest))).toOption =
              (Query.parse ("$" ++ rest)).toOption.map (⟨descendant, [.name n]⟩ :: ·) := by
  have hdotted := isSegment_dotted hn descendant
  refine ⟨?alone, ?quoted, ?before⟩
  case alone =>
    split_ifs with hspace
    · exact parse_root_of_endsWithSpace ((endsWithSpace_dotted hn descendant).trans hspace)
    · rw [Bool.not_eq_true] at hspace
      exact parse_alone hdotted ((endsWithSpace_dotted hn descendant).trans hspace)
  case quoted =>
    intro quote hquote
    exact parse_alone (isSegment_bracketed hn descendant hquote)
      (endsWithSpace_bracketed descendant quote n)
  case before =>
    intro rest hne hrest
    refine ⟨toOption_parse_before hdotted hne hrest, fun quote hquote => ?_⟩
    exact toOption_parse_before (isSegment_bracketed hn descendant hquote) hne hrest

lemma isMemberName_spaced : IsMemberName "a\u00a0" := by
  refine ⟨'a', ['\u00a0'], rfl, rfl, ?_⟩
  rintro d (_ | ⟨_, hd⟩)
  · rfl
  · cases hd

/-- A name that ends with a no-break space, before an index. -/
theorem Query.parse_spaced_name_before_index :
    IsMemberName "a\u00a0" ∧ (Query.parse "$.a\u00a0[0]").toOption =
      some [⟨false, [.name "a\u00a0"]⟩, ⟨false, [.index 0]⟩] := by
  have hname := isMemberName_spaced
  have hzero : IsInt ['0'] 0 := rfl
  have hindex : IsSegment "[0]".toList ⟨false, [.index 0]⟩ :=
    .bracketed blanks_nil (.one (.index hzero) blanks_nil)
  have hrest : Query.parse ("$" ++ "[0]") = .ok [⟨false, [.index 0]⟩] :=
    parse_alone hindex (by decide)
  have hbefore := ((Query.parse_member_name _ hname false).2.2 "[0]" (by decide)
    (avoids_cons (by decide))).1
  rw [hrest] at hbefore
  exact ⟨hname, hbefore⟩

/-- After a point such a name is refused at the end of a query, though it needs no quotes. -/
theorem Query.parse_spaced_name :
    IsMemberName "a\u00a0" ∧ Query.parse "$.a\u00a0" ≠ .ok [⟨false, [.name "a\u00a0"]⟩] ∧
      Query.parse "$['a\u00a0']" = .ok [⟨false, [.name "a\u00a0"]⟩] := by
  have hname := isMemberName_spaced
  have hquoted := isSegment_bracketed hname false (.inl rfl)
  have hrefused : Query.parse ("$" ++ ".a\u00a0") = .error ⟨.expectedRoot, 0, "$.a\u00a0"⟩ :=
    parse_root_of_endsWithSpace (by decide)
  refine ⟨hname, ?_, parse_alone hquoted (by decide)⟩
  intro hparse
  cases hrefused.symm.trans hparse

end JsonQuery
