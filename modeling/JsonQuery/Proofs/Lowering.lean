import JsonQuery.Program.OfQuery
import JsonQuery.Proofs.Parts
import Mathlib.Data.List.Forall2

/-!
What compiling makes of the segments of a query: a block for each, perhaps with a `descend`
before it, and in the block one instruction for each selector. The constants that instructions
refer to stay where they are, since later ones are added behind them.
-/

namespace JsonQuery

/-! ### Constants -/

namespace Builder

/-- Each shared constant is found where the builder has put it. -/
def Sound (b : Builder) : Prop :=
  ∀ (key : SharedConstant) (c : Nat), b.shared[key]? = some c →
    ∃ constant : Constant, b.constants[c]? = some constant ∧ constant.shared? = some key

/-- A builder after some instructions have been appended to it. -/
structure Adds (b : Builder) (code : List Instruction) (b' : Builder) : Prop where
  code : b'.code.toList = b.code.toList ++ code
  constants : b.constants.toList <+: b'.constants.toList
  block : b'.block = b.block
  sound : b'.Sound

end Builder

lemma Constant.shared?_injective {k l : Constant} {key : SharedConstant}
    (hk : k.shared? = some key) (hl : l.shared? = some key) : k = l := by
  cases k <;> cases hk <;> cases l <;> cases hl <;> rfl

namespace Builder

variable {b b' : Builder}

lemma sound_empty : Sound {} := by
  intro key c h
  simp at h

lemma Adds.trans {b'' : Builder} {code code' : List Instruction} (h : b.Adds code b')
    (h' : b'.Adds code' b'') : b.Adds (code ++ code') b'' where
  code := by rw [h'.code, h.code, List.append_assoc]
  constants := h.constants.trans h'.constants
  block := h'.block.trans h.block
  sound := h'.sound

lemma adds_append (hb : b.Sound) (i : Instruction) : b.Adds [i] (b.append i).2 where
  code := by simp [append]
  constants := List.prefix_rfl
  block := rfl
  sound := hb

/-- A new constant does not move the others. -/
lemma Sound.push (hb : b.Sound) (constant : Constant) {key : SharedConstant} {c : Nat}
    (hc : b.shared[key]? = some c) :
    ∃ k : Constant, (b.constants.push constant)[c]? = some k ∧ k.shared? = some key := by
  obtain ⟨k, hk, hkey⟩ := hb key c hc
  obtain ⟨hlt, rfl⟩ := Array.getElem?_eq_some_iff.1 hk
  exact ⟨_, Array.getElem?_push_lt hlt, hkey⟩

/-- The number that interning gives leads to the constant. -/
lemma intern_spec (hb : b.Sound) {constant : Constant} {c : Nat}
    (h : b.intern constant = (.ok c, b')) :
    b.Adds [] b' ∧ b'.constants.toList[c]? = some constant := by
  rw [intern] at h
  split at h
  · rename_i d hd
    cases h
    obtain ⟨key, hkey, hshared⟩ := Option.bind_eq_some_iff.1 hd
    obtain ⟨k, hk, hkshared⟩ := hb key c hshared
    obtain rfl := Constant.shared?_injective hkshared hkey
    exact ⟨⟨by simp, List.prefix_rfl, rfl, hb⟩, by simpa using hk⟩
  · dsimp only at h
    split_ifs at h with hfull
    · cases h
    cases h
    refine ⟨⟨by simp, by simp, rfl, ?_⟩, by simp⟩
    -- a key of the new map is the new constant's own, or was there before
    intro key c hc
    dsimp only at hc ⊢
    split at hc
    · rename_i own hown
      rw [Std.HashMap.getElem?_insert] at hc
      split_ifs at hc with heq
      · cases hc
        exact ⟨constant, by simp, by rw [hown]; simpa using heq⟩
      · exact hb.push constant hc
    · exact hb.push constant hc

lemma appendWith_spec (hb : b.Sound) {constant : Constant} {instruction : Nat → Instruction}
    (h : b.appendWith constant instruction = .ok b') :
    ∃ c, b.Adds [instruction c] b' ∧ b'.constants.toList[c]? = some constant := by
  rw [appendWith] at h
  split at h
  · rename_i c b₁ hb₁
    cases h
    obtain ⟨hadds, hc⟩ := intern_spec hb hb₁
    exact ⟨c, hadds.trans (adds_append hadds.sound _), hc⟩
  · cases h

end Builder

/-! ### Selectors -/

/-- The instruction that a selector becomes, given the constants it finds. -/
inductive Lowered (r : Registry) (constants : List Constant) : Selector → Instruction → Prop
  | name {key : String} {c : Nat} (hc : constants[c]? = some (.name key)) :
    Lowered r constants (.name key) (.selectName c)
  | index {position : Int} {c : Nat} (hc : constants[c]? = some (.index position)) :
    Lowered r constants (.index position) (.selectIndex c)
  | wildcard : Lowered r constants .wildcard .selectWildcard
  | nothing {s : Slice} (h : s.form = .nothing) : Lowered r constants (.slice s) .sliceEmpty
  | everything {s : Slice} (h : s.form = .everything) :
    Lowered r constants (.slice s) .selectArrayAll
  | slice {s : Slice} {o : SliceOpcode} {c : Nat} (h : s.form = .opcode o)
    (hc : constants[c]? = some (.slice s.numbers)) : Lowered r constants (.slice s) (.slice o c)
  | filter {f : Filter} {condition : Condition} {c : Nat} (h : r.assembleFilter f = .ok condition)
    (hc : constants[c]? = some (.filter condition)) :
    Lowered r constants (.filter f) (.selectFilter c)

lemma getElem?_of_isPrefix {l l' : List Constant} (h : l <+: l') {c : Nat} {k : Constant}
    (hc : l[c]? = some k) : l'[c]? = some k := by
  obtain ⟨more, rfl⟩ := h
  rw [List.getElem?_append_left (List.getElem?_eq_some_iff.1 hc).1, hc]

lemma Lowered.mono {r : Registry} {l l' : List Constant} (h : l <+: l') {s : Selector}
    {i : Instruction} (hs : Lowered r l s i) : Lowered r l' s i := by
  cases hs with
  | name hc => exact .name (getElem?_of_isPrefix h hc)
  | index hc => exact .index (getElem?_of_isPrefix h hc)
  | wildcard => exact .wildcard
  | nothing hs => exact .nothing hs
  | everything hs => exact .everything hs
  | slice hs hc => exact .slice hs (getElem?_of_isPrefix h hc)
  | filter hf hc => exact .filter hf (getElem?_of_isPrefix h hc)

namespace Registry

variable {r : Registry} {b b' : Builder}

lemma assembleSelector_spec (hb : b.Sound) {s : Selector} (h : r.assembleSelector b s = .ok b') :
    ∃ i, b.Adds [i] b' ∧ Lowered r b'.constants.toList s i := by
  cases s with
  | name key =>
    obtain ⟨c, hadds, hc⟩ := Builder.appendWith_spec hb h
    exact ⟨_, hadds, .name hc⟩
  | index position =>
    obtain ⟨c, hadds, hc⟩ := Builder.appendWith_spec hb h
    exact ⟨_, hadds, .index hc⟩
  | wildcard =>
    cases h
    exact ⟨_, Builder.adds_append hb _, .wildcard⟩
  | slice s =>
    rw [assembleSelector, Builder.appendSlice] at h
    split at h
    · rename_i hs
      cases h
      exact ⟨_, Builder.adds_append hb _, .nothing hs⟩
    · rename_i hs
      cases h
      exact ⟨_, Builder.adds_append hb _, .everything hs⟩
    · rename_i o hs
      obtain ⟨c, hadds, hc⟩ := Builder.appendWith_spec hb h
      exact ⟨_, hadds, .slice hs hc⟩
  | filter f =>
    rw [assembleSelector] at h
    obtain ⟨condition, hf, h⟩ := bind_eq_ok h
    obtain ⟨c, hadds, hc⟩ := Builder.appendWith_spec hb h
    exact ⟨_, hadds, .filter hf hc⟩

lemma assembleSelectors_spec (hb : b.Sound) {ss : List Selector}
    (h : r.assembleSelectors b ss = .ok b') :
    ∃ body, b.Adds body b' ∧ List.Forall₂ (Lowered r b'.constants.toList) ss body := by
  induction ss generalizing b with
  | nil =>
    cases h
    exact ⟨[], ⟨by simp, List.prefix_rfl, rfl, hb⟩, .nil⟩
  | cons s ss ih =>
    rw [assembleSelectors] at h
    obtain ⟨b₁, hs, h⟩ := bind_eq_ok h
    obtain ⟨i, hadds, hi⟩ := assembleSelector_spec hb hs
    obtain ⟨body, hadds', hbody⟩ := ih hadds.sound h
    exact ⟨i :: body, hadds.trans hadds', .cons (hi.mono hadds'.constants) hbody⟩

end Registry

/-! ### Segments -/

/-- The parts that segments become. -/
inductive Lays (r : Registry) (constants : List Constant) : List Segment → List Part → Prop
  | nil : Lays r constants [] []
  | child {selectors : List Selector} {body : List Instruction} {ss : List Segment}
    {parts : List Part} (h : List.Forall₂ (Lowered r constants) selectors body)
    (hs : Lays r constants ss parts) :
    Lays r constants (⟨false, selectors⟩ :: ss) (.block body :: parts)
  | descendant {selectors : List Selector} {body : List Instruction} {ss : List Segment}
    {parts : List Part} (h : List.Forall₂ (Lowered r constants) selectors body)
    (hs : Lays r constants ss parts) :
    Lays r constants (⟨true, selectors⟩ :: ss) (.descend :: .block body :: parts)

namespace Builder

variable {b b' b'' : Builder}

lemma openBlock_spec (hb : b.Sound) :
    b.openBlock.2.code.toList = b.code.toList ++ [.blockBegin 0] ∧
      b.openBlock.2.constants = b.constants ∧ b.openBlock.2.block = some b.code.size ∧
      b.openBlock.2.Sound :=
  ⟨by simp [openBlock, append], rfl, rfl, hb⟩

/-- Ending a block completes its begin. -/
lemma finishSegment_spec (hb : b.Sound) {body : List Instruction}
    (hadds : b.openBlock.2.Adds body b') (h : b'.finishSegment = .ok b'') :
    b''.code.toList = b.code.toList ++ (Part.block body).code b.code.size ∧
      b.constants.toList <+: b''.constants.toList ∧ b'.constants = b''.constants ∧
      b''.Sound := by
  obtain ⟨hcode, hconstants, hblock, -⟩ := openBlock_spec hb
  have hsize : b'.code.toList = b.code.toList ++ .blockBegin 0 :: body := by
    rw [hadds.code, hcode]
    simp
  have hpc : b'.code.size = b.code.size + body.length + 1 := by
    rw [← Array.length_toList, hsize]
    simp [Nat.add_assoc]
  rw [finishSegment, closeBlock] at h
  simp only [append, hadds.block, hblock] at h
  split at h
  · rename_i pc b₁ heq
    split_ifs at heq with hfull
    · cases heq
    cases heq
    cases h
    refine ⟨?_, ?_, rfl, hadds.sound⟩
    · simp [hsize, hpc, Part.code, List.set_append_right]
    · rw [← hconstants]
      exact hadds.constants
  · cases h

end Builder

namespace Registry

variable {r : Registry} {b b' : Builder}

lemma size_eq {b b' : Builder} {code : List Instruction}
    (h : b'.code.toList = b.code.toList ++ code) : b'.code.size = b.code.size + code.length := by
  rw [← Array.length_toList, h]
  simp

lemma assembleSegment_spec (hb : b.Sound) {selectors : List Selector} {b'' : Builder}
    (h : r.assembleSelectors b.openBlock.2 selectors = .ok b') (h' : b'.finishSegment = .ok b'') :
    ∃ body, b''.code.toList = b.code.toList ++ (Part.block body).code b.code.size ∧
      b.constants.toList <+: b''.constants.toList ∧ b''.Sound ∧
      List.Forall₂ (Lowered r b''.constants.toList) selectors body := by
  obtain ⟨body, hadds, hbody⟩ := assembleSelectors_spec (Builder.openBlock_spec hb).2.2.2 h
  obtain ⟨hcode, hconstants, heq, hsound⟩ := Builder.finishSegment_spec hb hadds h'
  exact ⟨body, hcode, hconstants, hsound, heq ▸ hbody⟩

/-- **Layout.** Compiling segments appends the code of the parts that they become. -/
theorem assembleSegments_spec (hb : b.Sound) {ss : List Segment}
    (h : r.assembleSegments b ss = .ok b') :
    ∃ parts, b'.code.toList = b.code.toList ++ Part.codeOfAll b.code.size parts ∧
      b.constants.toList <+: b'.constants.toList ∧ Lays r b'.constants.toList ss parts := by
  induction ss generalizing b with
  | nil =>
    cases h
    exact ⟨[], by simp [Part.codeOfAll], List.prefix_rfl, .nil⟩
  | cons s ss ih =>
    obtain ⟨descendant, selectors⟩ := s
    rw [assembleSegments] at h
    obtain ⟨b₁, hss, hrest⟩ := bind_eq_ok h
    obtain ⟨b₂, hfinish, hrest⟩ := bind_eq_ok hrest
    cases descendant with
    | false =>
      obtain ⟨body, hcode, hconstants, hsound, hbody⟩ := assembleSegment_spec hb hss hfinish
      obtain ⟨parts, hcode', hconstants', hparts⟩ := ih hsound hrest
      refine ⟨.block body :: parts, ?_, hconstants.trans hconstants', .child ?_ hparts⟩
      · rw [hcode', hcode, size_eq hcode]
        simp [Part.codeOfAll]
      · exact hbody.imp fun _ _ => Lowered.mono hconstants'
    | true =>
      have hd := Builder.adds_append hb .descend
      obtain ⟨body, hcode, hconstants, hsound, hbody⟩ := assembleSegment_spec hd.sound hss hfinish
      obtain ⟨parts, hcode', hconstants', hparts⟩ := ih hsound hrest
      refine ⟨.descend :: .block body :: parts, ?_, hconstants.trans hconstants',
        .descendant ?_ hparts⟩
      · rw [hcode', size_eq hcode, hcode, hd.code, size_eq hd.code]
        simp [Part.codeOfAll, Part.code, Part.size]
      · exact hbody.imp fun _ _ => Lowered.mono hconstants'

end Registry

lemma eq_of_program {b : Builder} {p : Program} (h : b.program = .ok p) :
    p = ⟨b.code.toList, b.constants.toList, none⟩ := by
  rw [Builder.program, Program.ofParts] at h
  rcases hv : Program.verify b.code.toList b.constants.toList with e | u
  · rw [hv] at h; cases h
  · rw [hv] at h; cases h; rfl

end JsonQuery
