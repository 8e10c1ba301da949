import JsonQuery.Function.Builtin
import JsonQuery.Program.Listing
import JsonQuery.Proofs.Conditions
import JsonQuery.Proofs.JsonNumbers
import JsonQuery.Proofs.RoundTrip

/-!
The listing of a compiled filter, in brackets, is a query, and that query is compiled to the
same filter again. The filter that is read is not always the one that was compiled: there are
parentheses around every operator, literals are those of JSON, and a zero has lost its sign.
-/

namespace JsonQuery

open Grammar

variable {r : Registry}

/-! ### What is read -/

lemma Registry.Compiles.assembleFilter {f : Filter} {c : Condition} (h : r.Compiles f c) :
    r.assembleFilter f = .ok c := by
  cases h with
  | literal => rfl
  | query hb hp => simp only [Registry.assembleFilter, hb, hp, bind, Except.bind, pure, Except.pure]
  | not h => simp only [Registry.assembleFilter, h, bind, Except.bind, pure, Except.pure]
  | and hl hl' => simp only [Registry.assembleFilter, hl, hl', bind, Except.bind, pure, Except.pure]
  | or hl hl' => simp only [Registry.assembleFilter, hl, hl', bind, Except.bind, pure, Except.pure]
  | @compare op _ _ _ _ hop hl hl' =>
    cases op with
    | or | and => cases hop
    | _ => simp only [Registry.assembleFilter, hl, hl', bind, Except.bind, pure, Except.pure]
  | call hget hargs =>
    simp only [Registry.assembleFilter, hget, hargs, bind, Except.bind, pure, Except.pure]

/-- The listing of a condition is read, and what is read is compiled to the condition. It is read
as an operand, which can stand wherever a listing has another one in it. -/
def Condition.ReadsBack (r : Registry) (c : Condition) : Prop :=
  ∃ g, IsOperand c.chars g ∧ r.assembleFilter g = .ok c

namespace Condition

lemma ReadsBack.of_primary {c : Condition} {g : Filter} (hg : IsPrimary c.chars g)
    (h : r.Compiles g c) : c.ReadsBack r :=
  ⟨g, hg.isOperand, h.assembleFilter⟩

/-- Two operands with their operator, in parentheses, need no others. -/
lemma isPrimary_infixed {v w : List Char} {f g : Filter} (op : Operator) (hv : IsOperand v f)
    (hw : IsOperand w g) : IsPrimary (chars.infixed v op w) (.binary op f g) := by
  have hleft : leftLevel op ≤ 255 := by cases op <;> decide
  have hright : op.precedence + 1 ≤ 255 := by cases op <;> decide
  have hbinds : Binds (Filter.binary op f g).precedence _ (.binary op f g) :=
    (hv.binds.mono hleft).binary (hw.binds.mono hright)
  have hparens := IsPrimary.parens hbinds.isFilter
  simpa [chars.infixed] using hparens

lemma ReadsBack.infixed {op : Operator} {l l' c : Condition} (hl : l.ReadsBack r)
    (hl' : l'.ReadsBack r)
    (hc : ∀ {g g'}, r.assembleFilter g = .ok l → r.assembleFilter g' = .ok l' →
      r.Compiles (.binary op g g') c)
    (htext : c.chars = chars.infixed l.chars op l'.chars) : c.ReadsBack r := by
  obtain ⟨g, hg, hgl⟩ := hl
  obtain ⟨g', hg', hgl'⟩ := hl'
  exact .of_primary (htext ▸ isPrimary_infixed op hg hg') (hc hgl hgl')

lemma exists_isArguments {args : List Filter} {cs : List Condition}
    (hback : ∀ arg ∈ args, ∀ c, r.assembleFilter arg = .ok c → c.ReadsBack r)
    (h : r.assembleArguments args = .ok cs) (hne : cs ≠ []) :
    ∃ gs, IsArguments (commaBlank.intercalate (charsOfAll cs)) gs ∧
      r.assembleArguments gs = .ok cs := by
  induction args generalizing cs with
  | nil =>
    cases h
    exact absurd rfl hne
  | cons arg args ih =>
    rw [Registry.assembleArguments] at h
    obtain ⟨c, harg, h⟩ := bind_eq_ok h
    obtain ⟨cs', hargs, h⟩ := bind_eq_ok h
    cases h
    obtain ⟨harg', hback⟩ := List.forall_mem_cons.1 hback
    obtain ⟨g, hg, hgc⟩ := harg' c harg
    have hcons {gs : List Filter} {cs' : List Condition} (hgs : r.assembleArguments gs = .ok cs') :
        r.assembleArguments (g :: gs) = .ok (c :: cs') := by
      simp only [Registry.assembleArguments, hgc, hgs, bind, Except.bind, pure, Except.pure]
    cases cs' with
    | nil =>
      refine ⟨[g], ?_, hcons rfl⟩
      simpa [charsOfAll] using IsArguments.one hg.isFilter
    | cons c' cs' =>
      obtain ⟨gs, hgs, hgsc⟩ := ih hback hargs (List.cons_ne_nil _ _)
      refine ⟨g :: gs, ?_, hcons hgsc⟩
      rw [charsOfAll, charsOfAll, List.intercalate_cons_cons, List.append_assoc]
      exact .cons hg.isFilter (hgs.prepend_blanks blanks_space)

end Condition

lemma Program.chars_setSource (origin : Origin) (p : Program) (source : String) :
    (p.setSource source).chars origin = origin.char :: source.toList :=
  rfl

open Condition in
/-- **What well-formed filters are compiled to is read back.** -/
theorem Filter.readsBack_of_assembleFilter (f : Filter) (hf : f.WellFormed) (c : Condition)
    (h : r.assembleFilter f = .ok c) : c.ReadsBack r := by
  induction f using Filter.induction generalizing c with
  | literal value =>
    cases h
    obtain ⟨l, hl, hjson⟩ := exists_isPrimary_json hf
    rw [← hjson] at hl ⊢
    exact .of_primary hl .literal
  | query origin segments =>
    cases Registry.compiles_of_assembleFilter h with
    | query hb hp =>
      refine .of_primary (g := .query origin segments) ?_ (.query hb hp)
      rw [Condition.chars, Program.chars_setSource, String.toList_ofList]
      exact .query (isSegments_chars segments hf)
  | not operand ih =>
    cases Registry.compiles_of_assembleFilter h with
    | not hinner =>
      obtain ⟨g, hg, hgc⟩ := ih hf _ hinner
      have hparens := (IsPrimary.parens hg.isFilter).isOperand
      exact ⟨.not g, IsOperand.not blanks_nil hparens, Registry.Compiles.assembleFilter (.not hgc)⟩
  | binary op left right ihl ihr =>
    cases Registry.compiles_of_assembleFilter h with
    | and hl hl' => exact (ihl hf.1 _ hl).infixed (ihr hf.2 _ hl') .and rfl
    | or hl hl' => exact (ihl hf.1 _ hl).infixed (ihr hf.2 _ hl') .or rfl
    | compare hop hl hl' => exact (ihl hf.1 _ hl).infixed (ihr hf.2 _ hl') (.compare hop) rfl
  | call name args ih =>
    cases Registry.compiles_of_assembleFilter h with
    | @call _ _ function cs hget hargs =>
      have hname : IsName name.toList := isName_iff.2 (by simpa using hf.1)
      have hargs' := (Filter.allWellFormed_iff args).1 hf.2
      by_cases hne : cs = []
      · -- the grammar has a rule of its own for calls without arguments
        subst hne
        have hcall := IsPrimary.callEmpty hname blanks_nil
        rw [String.ofList_toList] at hcall
        exact .of_primary hcall (.call hget rfl)
      · obtain ⟨gs, hgs, hgsc⟩ :=
          exists_isArguments (fun arg harg => ih arg harg (hargs' arg harg)) hargs hne
        have hcall := IsPrimary.call hname hgs
        rw [String.ofList_toList] at hcall
        exact .of_primary hcall (.call hget hgsc)

/-! ### Queries of one filter -/

/-- The query of a filter alone. -/
def Query.ofFilter (f : Filter) : Query := [⟨false, [.filter f]⟩]

/-- What stands in the brackets of a query is its filter. -/
lemma Query.parse_bracketed {w : List Char} {f : Filter} (h : IsFilter w f) :
    Query.parse ("$[?" ++ String.ofList w ++ "]") = .ok (Query.ofFilter f) := by
  have htext : ("$[?" ++ String.ofList w ++ "]").toList = '$' :: '[' :: '?' :: w ++ [']'] := by
    simp
  rw [Query.parse_eq_ok_iff_text, text_eq_ok_iff, htext]
  constructor
  · intro c hc
    rw [List.getLast?_append] at hc
    cases hc
    decide
  · have hselectors := IsSelectors.one (.filter h) blanks_nil
    have hsegments := IsSegments.cons blanks_nil (.bracketed blanks_nil hselectors) .nil
    exact ⟨_, rfl, by simpa [Query.ofFilter] using hsegments⟩

/-- A filter alone is compiled to a block that selects by it. -/
lemma Registry.assemble_ofFilter {f : Filter} {c : Condition} (h : r.assembleFilter f = .ok c) :
    r.assemble (Query.ofFilter f) =
      .ok ⟨[.blockBegin 2, .selectFilter 0, .blockEnd], [.filter c],
        some (Query.text (Query.ofFilter f))⟩ := by
  have hverify : Program.verify [.blockBegin 2, .selectFilter 0, .blockEnd] [.filter c] = .ok () :=
    rfl
  generalize htext : Query.text (Query.ofFilter f) = text
  simp [Registry.assemble, Registry.assembleSegments, Query.ofFilter, Registry.assembleSelectors,
    Registry.assembleSelector, h, Builder.startSegment, Builder.append, Builder.openBlock,
    Builder.appendWith, Builder.intern, Constant.shared?, Builder.finishSegment,
    Builder.closeBlock, Quota.limit, Builder.program, Program.ofParts, bind, Except.bind, pure,
    Except.pure, Program.setSource, Except.mapError, hverify]
  exact htext

/-- **The listing of a compiled filter determines it.** In brackets it is a query, which is
compiled to the same filter again; so the filter that is read has the values of the one that was
compiled, and filters with one listing are compiled to one filter. -/
theorem Registry.assembleFilter_of_listing (r : Registry) (f : Filter) (c : Condition)
    (hf : f.WellFormed) (h : r.assembleFilter f = .ok c) :
    (∃ g, Query.parse ("$[?" ++ c.text ++ "]") = .ok (Query.ofFilter g) ∧
      r.assemble (Query.ofFilter g) =
        .ok ⟨[.blockBegin 2, .selectFilter 0, .blockEnd], [.filter c],
          some (Query.text (Query.ofFilter g))⟩ ∧
      ∀ root node, g.value r root node = f.value r root node) ∧
    ∀ f' c', f'.WellFormed → r.assembleFilter f' = .ok c' → c'.text = c.text → c' = c := by
  have hread {f : Filter} {c : Condition} (hf : f.WellFormed) (h : r.assembleFilter f = .ok c) :
      ∃ g, Query.parse ("$[?" ++ c.text ++ "]") = .ok (Query.ofFilter g) ∧
        r.assembleFilter g = .ok c := by
    obtain ⟨g, hg, hgc⟩ := f.readsBack_of_assembleFilter hf c h
    exact ⟨g, Query.parse_bracketed hg.isFilter, hgc⟩
  refine ⟨?_, fun f' c' hf' h' htext => ?_⟩
  · obtain ⟨g, hg, hgc⟩ := hread hf h
    refine ⟨g, hg, assemble_ofFilter hgc, fun root node => ?_⟩
    rw [← g.kept r c hgc root node, f.kept r c h root node]
  · obtain ⟨g, hg, hgc⟩ := hread hf h
    obtain ⟨g', hg', hgc'⟩ := hread hf' h'
    rw [htext, hg] at hg'
    cases hg'
    exact Except.ok.inj (hgc'.symm.trans hgc)

/-- A filter with a query, a call, a control character and a negative zero. -/
def Filter.longerThanZero : Filter :=
  .binary .and (.not (.query .current [⟨false, [.name "b"]⟩]))
    (.binary .less (.literal (.number (.finite (.zero true))))
      (.call "length" [.literal (.string "\n")]))

/-- What this filter is compiled to. -/
def Condition.longerThanZero : Condition :=
  .and (.not (.query .current
      ⟨[.blockBegin 2, .selectName 0, .blockEnd], [.name "b"], some "['b']"⟩))
    (.compare .less (.literal (.number (.int 0)))
      (.call "length" Builtin.length [.literal (.string "\n")]))

lemma Filter.assemble_longerThanZero :
    Registry.standard.assembleFilter longerThanZero = .ok .longerThanZero := by
  have hverify : Program.verify [.blockBegin 2, .selectName 0, .blockEnd] [.name "b"] = .ok () :=
    rfl
  have htext : String.ofList (Segment.charsOfAll [⟨false, [.name "b"]⟩]) = "['b']" := rfl
  have hzero : (Literal.number (.finite (.zero true))).json = .number (.int 0) := by
    simp [Literal.json, Double.toInt?, Double.zero]
  have hget : Registry.standard.get? "length" = some Builtin.length := rfl
  simp [Filter.longerThanZero, Condition.longerThanZero, Registry.assembleFilter,
    Registry.assembleArguments, Registry.assembleSegments, Registry.assembleSelectors,
    Registry.assembleSelector, Builder.startSegment, Builder.append, Builder.openBlock,
    Builder.appendWith, Builder.intern, Constant.shared?, Builder.finishSegment,
    Builder.closeBlock, Quota.limit, Builder.program, Program.ofParts, bind, Except.bind, pure,
    Except.pure, Program.setSource, Except.mapError, hverify, htext, hzero, hget]
  rfl

/-- The sign of the zero is not in the listing, and not in the condition. -/
theorem Registry.listing_of_longerThanZero :
    Filter.longerThanZero.WellFormed ∧
      Registry.standard.assembleFilter .longerThanZero = .ok .longerThanZero ∧
      ∃ g, Query.parse "$[?(!(@['b']) && (0 < length(\"\\n\")))]" = .ok (Query.ofFilter g) ∧
        Registry.standard.assemble (Query.ofFilter g) =
          .ok ⟨[.blockBegin 2, .selectFilter 0, .blockEnd], [.filter .longerThanZero],
            some (Query.text (Query.ofFilter g))⟩ := by
  have hname : isFunctionName "length" = true := by decide
  have hwell : Filter.longerThanZero.WellFormed := by
    simp [hname, Filter.longerThanZero, Filter.WellFormed, Filter.AllWellFormed,
      Segment.AllWellFormed, Segment.WellFormed, Selector.AllWellFormed, Selector.WellFormed,
      Literal.WellFormed, Numeral.IsFinite]
  have htext : "$[?" ++ Condition.longerThanZero.text ++ "]" =
      "$[?(!(@['b']) && (0 < length(\"\\n\")))]" := rfl
  obtain ⟨⟨g, hg, hassemble, -⟩, -⟩ := Registry.standard.assembleFilter_of_listing _ _ hwell
    Filter.assemble_longerThanZero
  rw [htext] at hg
  exact ⟨hwell, Filter.assemble_longerThanZero, g, hg, hassemble⟩

end JsonQuery
