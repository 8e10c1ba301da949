import JsonQuery.Proofs.Pooling
import JsonQuery.Proofs.Verification

/-!
Programs as they are built. Whatever is asked of a builder, the numbers it gives for constants
can be relied on. If in addition blocks are begun and ended in turn, hold nothing but selectors
with the numbers of constants of their kinds, and nothing else but `descend` stands between
them, then there is a program in the end: the instructions as they were appended, each begin
with the place of its own end.
-/

namespace JsonQuery

/-- The instruction that a call appends; a begin has no target yet. -/
def BuilderCall.instruction? : BuilderCall → Option Instruction
  | .intern _ => none
  | .append instruction => some instruction
  | .openBlock => some (.blockBegin 0)
  | .closeBlock => some .blockEnd

/-- An instruction as it was appended, without the target that ending its block gives it. -/
def Instruction.unpatched : Instruction → Instruction
  | .blockBegin _ => .blockBegin 0
  | i => i

lemma Instruction.Fits.mono {constants constants' : List Constant} {i : Instruction}
    (h : constants <+: constants') (hi : i.Fits constants) : i.Fits constants' := by
  refine ⟨hi.1, fun c kind hoperand => ?_⟩
  obtain ⟨k, hk, hkind⟩ := Option.map_eq_some_iff.1 (hi.2 c kind hoperand)
  rw [getElem?_of_isPrefix h hk, Option.map_some, hkind]

lemma Part.Fits.mono {constants constants' : List Constant} {p : Part}
    (h : constants <+: constants') (hp : p.Fits constants) : p.Fits constants' := by
  cases p with
  | descend => trivial
  | block body => exact fun i hi => (hp i hi).mono h

namespace Builder

/-- Histories in which each block is ended before the next one is begun; whether a block is open
after them. Selectors stand within blocks, and their operands are numbers that were given for
constants of the right kinds; `descend` stands between blocks. -/
inductive Orderly : Bool → List BuilderCall → Prop
  | nil : Orderly false []
  | intern {inside : Bool} {history : List BuilderCall} (h : Orderly inside history)
    (constant : Constant) : Orderly inside (history ++ [.intern constant])
  | descend {history : List BuilderCall} (h : Orderly false history) :
    Orderly false (history ++ [.append .descend])
  | openBlock {history : List BuilderCall} (h : Orderly false history) :
    Orderly true (history ++ [.openBlock])
  | select {history : List BuilderCall} {i : Instruction} (h : Orderly true history)
    (hi : i.isSelector = true)
    (hoperand : ∀ c kind, i.operand? = some (c, kind) →
      ∃ constant : Constant, constant.kind = kind ∧ Given constant c history) :
    Orderly true (history ++ [.append i])
  | closeBlock {history : List BuilderCall} (h : Orderly true history)
    (hclosed : ∃ pc, (built history).answer .closeBlock = .ok pc) :
    Orderly false (history ++ [.closeBlock])

/-- The code of a builder is a row of parts, perhaps with the start of a block behind them. -/
inductive Laid (b : Builder) : Bool → Prop
  | between {parts : List Part} (hparts : ∀ p ∈ parts, p.Fits b.constants.toList)
    (hcode : b.code.toList = Part.codeOfAll 0 parts) : Laid b false
  | within {parts : List Part} {body : List Instruction}
    (hparts : ∀ p ∈ parts, p.Fits b.constants.toList)
    (hbody : ∀ i ∈ body, i.Fits b.constants.toList)
    (hcode : b.code.toList = Part.codeOfAll 0 parts ++ .blockBegin 0 :: body)
    (hblock : b.block = some (Part.sizeOfAll parts)) : Laid b true

variable {b : Builder} {history : List BuilderCall} {inside : Bool}

/-! ### One call -/

lemma serve_intern_eq (b : Builder) (k : Constant) :
    (b.serve (.intern k)).code = b.code ∧ (b.serve (.intern k)).block = b.block := by
  rw [serve]
  rcases b.intern_cases k with ⟨_, _, -, -, h⟩ | ⟨-, ⟨-, h⟩ | ⟨-, h⟩⟩ <;> rw [h] <;>
    exact ⟨rfl, rfl⟩

lemma Laid.intern (h : b.Laid inside) (k : Constant) : (b.serve (.intern k)).Laid inside := by
  have hmore := b.constants_isPrefix_serve (.intern k)
  obtain ⟨hcode', hblock'⟩ := b.serve_intern_eq k
  cases h with
  | between hparts hcode =>
    exact .between (fun p hp => (hparts p hp).mono hmore) (by rw [hcode', hcode])
  | within hparts hbody hcode hblock =>
    exact .within (fun p hp => (hparts p hp).mono hmore) (fun i hi => (hbody i hi).mono hmore)
      (by rw [hcode', hcode]) (by rw [hblock', hblock])

lemma toList_append (b : Builder) (i : Instruction) :
    (b.serve (.append i)).code.toList = b.code.toList ++ [i] :=
  Array.toList_push

lemma toList_openBlock (b : Builder) :
    (b.serve .openBlock).code.toList = b.code.toList ++ [.blockBegin 0] :=
  Array.toList_push

lemma Laid.descend (h : b.Laid false) : (b.serve (.append .descend)).Laid false := by
  cases h with
  | @between parts hparts hcode =>
    refine @Laid.between _ (parts ++ [.descend]) ?_ ?_
    · exact List.forall_mem_append.2 ⟨hparts, List.forall_mem_singleton.2 trivial⟩
    · rw [toList_append, hcode, Part.codeOfAll_append]
      rfl

lemma Laid.openBlock (h : b.Laid false) : (b.serve .openBlock).Laid true := by
  cases h with
  | @between parts hparts hcode =>
    refine @Laid.within _ parts [] hparts (by simp) (by rw [toList_openBlock, hcode]) ?_
    rw [← Part.length_codeOfAll 0 parts, ← hcode, Array.length_toList]
    rfl

lemma Laid.select (h : b.Laid true) {i : Instruction} (hi : i.Fits b.constants.toList) :
    (b.serve (.append i)).Laid true := by
  cases h with
  | @within parts body hparts hbody hcode hblock =>
    refine @Laid.within _ parts (body ++ [i]) hparts ?_ ?_ hblock
    · exact List.forall_mem_append.2 ⟨hbody, List.forall_mem_singleton.2 hi⟩
    · rw [toList_append, hcode, List.append_assoc, List.cons_append]

/-- Ending a block appends its end and gives the place of it to the begin. -/
lemma closeBlock_spec {before body : List Instruction}
    (hcode : b.code.toList = before ++ .blockBegin 0 :: body)
    (hblock : b.block = some before.length) {pc : Nat} (h : b.answer .closeBlock = .ok pc) :
    pc = before.length + (body.length + 1) ∧ (b.serve .closeBlock).code.toList =
      before ++ .blockBegin pc :: (body ++ [.blockEnd]) := by
  have hsize : b.code.size = before.length + (body.length + 1) := by
    rw [← Array.length_toList, hcode, List.length_append, List.length_cons]
  rw [answer, closeBlock] at h
  rw [serve, closeBlock]
  simp only [append, hblock] at h ⊢
  split_ifs at h ⊢ with hfull
  cases h
  refine ⟨hsize, ?_⟩
  simp [hcode, List.set_append_right]

/-- A block can be ended as long as targets reach. -/
lemma Laid.exists_answer_closeBlock (h : b.Laid true) (hroom : b.code.size < 2 ^ 32) :
    b.answer .closeBlock = .ok b.code.size := by
  cases h with
  | within hparts hbody hcode hblock =>
    have hlimit : Quota.instructions.limit = 2 ^ 32 - 1 := rfl
    have hfits : ¬ Quota.instructions.limit < b.code.size := by omega
    rw [answer, closeBlock]
    simp only [append, hblock, if_neg hfits]

lemma Laid.closeBlock (h : b.Laid true) {pc : Nat} (hclosed : b.answer .closeBlock = .ok pc) :
    (b.serve .closeBlock).Laid false ∧
      (b.serve .closeBlock).code.toList.map Instruction.unpatched =
        b.code.toList.map Instruction.unpatched ++ [.blockEnd] := by
  cases h with
  | @within parts body hparts hbody hcode hblock =>
    rw [← Part.length_codeOfAll 0 parts] at hblock
    obtain ⟨rfl, hcode'⟩ := closeBlock_spec hcode hblock hclosed
    refine ⟨@Laid.between _ (parts ++ [.block body]) ?_ ?_, ?_⟩
    · rw [(b.constants_serve_eq (by simp)).1]
      exact List.forall_mem_append.2 ⟨hparts, List.forall_mem_singleton.2 hbody⟩
    · rw [hcode', Part.codeOfAll_append, Part.length_codeOfAll, Nat.zero_add]
      simp [Part.codeOfAll, Part.code, Nat.add_assoc]
    · simp [hcode', hcode, Instruction.unpatched]

/-! ### Calls in a row -/

/-- **What an orderly history lays down.** The code is that of whole parts, with the start of a
block behind them if one is open, and tells which instructions were appended in which order. -/
lemma Orderly.laid (h : Orderly inside history) :
    (built history).Laid inside ∧
      (built history).code.toList.map Instruction.unpatched =
        history.filterMap BuilderCall.instruction? := by
  induction h with
  | nil => exact ⟨@Laid.between _ [] (by simp) rfl, rfl⟩
  | @intern inside history h constant ih =>
    rw [built_append_singleton, (serve_intern_eq _ constant).1, List.filterMap_append, ih.2]
    exact ⟨ih.1.intern constant, (List.append_nil _).symm⟩
  | @descend history h ih =>
    rw [built_append_singleton, toList_append, List.map_append, List.filterMap_append, ih.2]
    exact ⟨ih.1.descend, rfl⟩
  | @openBlock history h ih =>
    rw [built_append_singleton, toList_openBlock, List.map_append, List.filterMap_append, ih.2]
    exact ⟨ih.1.openBlock, rfl⟩
  | @select history i h hi hoperand ih =>
    rw [built_append_singleton, toList_append, List.map_append, List.filterMap_append, ih.2]
    -- the number was given some calls ago, and still leads to its constant
    have hrefers : i.Refers (built history).constants.toList := by
      intro c kind hc
      obtain ⟨constant, rfl, hgiven⟩ := hoperand c kind hc
      rw [hgiven.getElem?, Option.map_some]
    refine ⟨ih.1.select ⟨hi, hrefers⟩, ?_⟩
    cases i with
    | blockBegin target => cases hi
    | _ => rfl
  | @closeBlock history h hclosed ih =>
    obtain ⟨pc, hclosed⟩ := hclosed
    obtain ⟨hlaid, hcode⟩ := ih.1.closeBlock hclosed
    rw [built_append_singleton, hcode, List.filterMap_append, ih.2]
    exact ⟨hlaid, rfl⟩

/-- What can be relied on at any time in the life of a builder that started fresh. -/
structure Laws (history : List BuilderCall) : Prop where
  /-- A number that was given for a constant leads to it, in the finished program as well. -/
  kept : ∀ (constant : Constant) (c : Nat), Given constant c history →
    c < 2 ^ 16 ∧ (built history).constants[c]? = some constant ∧
      ∀ p, (built history).program = .ok p → p.constants[c]? = some constant
  /-- An addition is given the number of an earlier one exactly if both add the same name, the
  same index or the same slice. -/
  shares : ∀ (constant : Constant) (c : Nat) (constant' : Constant) (c' : Nat),
    Given constant c history → (built history).answer (.intern constant') = .ok c' →
      (c' = c ↔ constant' = constant ∧ constant.kind ≠ .filter)
  /-- A filter is given a number that led nowhere before. -/
  fresh : ∀ (condition : Condition) (c : Nat),
    (built history).answer (.intern (.filter condition)) = .ok c →
      c = (built history).constants.size
  /-- No name, index or slice is held twice. -/
  distinct : ∀ (constant : Constant) (c c' : Nat), (built history).constants[c]? = some constant →
    (built history).constants[c']? = some constant → constant.kind ≠ .filter → c = c'
  /-- No more constants are held than operands can tell apart. -/
  fits : (built history).constants.size ≤ 2 ^ 16
  /-- An addition is refused exactly if that many are held and the constant is a filter or none
  of them. -/
  refused : ∀ constant : Constant, (∃ e, (built history).answer (.intern constant) = .error e) ↔
    (built history).constants.size = 2 ^ 16 ∧
      (constant.kind = .filter ∨ constant ∉ (built history).constants)
  /-- An addition is only refused for the number of constants, and changes nothing then. -/
  unchanged : ∀ (constant : Constant) (e : CompileError),
    (built history).answer (.intern constant) = .error e →
      e = .tooLarge .constants ∧ (built history).serve (.intern constant) = built history
  /-- The open block of an orderly history can be ended, unless its end is out of reach. -/
  closes : Orderly true history → (built history).code.size < 2 ^ 32 →
    (built history).answer .closeBlock = .ok (built history).code.size
  /-- An orderly history without an open block leads to a program: the instructions that were
  appended, in that order, each begin with the place of its own end. -/
  finishes : Orderly false history → ∃ p, (built history).program = .ok p ∧
    p.constants = (built history).constants.toList ∧
    p.code.map Instruction.unpatched = history.filterMap BuilderCall.instruction? ∧
    IsRow 0 p.code

/-- A row of parts that fit is a program. -/
lemma Laid.exists_program (h : b.Laid false) : ∃ p, b.program = .ok p ∧
    p.constants = b.constants.toList ∧ p.code = b.code.toList ∧ IsRow 0 p.code := by
  cases h with
  | between hparts hcode =>
    have hverified : Program.verify b.code.toList b.constants.toList = .ok () := by
      rw [hcode]
      exact Program.verify_codeOfAll hparts
    refine ⟨⟨b.code.toList, b.constants.toList, none⟩, ?_, rfl, rfl, ?_⟩
    · rw [program, Program.ofParts, hverified]
      rfl
    · rw [hcode]
      exact isRow_iff.2 ⟨_, ((Part.forall_fits_iff 0).1 hparts).1, rfl⟩

/-- **A builder keeps its word**, whatever is asked of it and in whatever order. -/
theorem history_lawful (history : List BuilderCall) : Laws history where
  kept constant c h := by
    have hc := h.getElem?
    have hlt : c < (built history).constants.size := by
      simpa using (List.getElem?_eq_some_iff.1 hc).1
    refine ⟨hlt.trans_le (pooled_built history).fits, by simpa using hc, fun p hp => ?_⟩
    rw [eq_of_program hp]
    exact hc
  shares constant c constant' c' h h' := h.eq_iff h'
  fresh condition c h := eq_size_of_answer rfl h
  distinct constant c c' hc hc' hkind := (pooled_built history).eq_of_getElem? hkind hc hc'
  fits := (pooled_built history).fits
  refused constant := by
    simp [(pooled_built history).answer_eq_error_iff]
  unchanged constant e h :=
    ⟨((pooled_built history).answer_eq_error_iff.1 h).1, serve_eq_of_error h⟩
  closes h hroom := h.laid.1.exists_answer_closeBlock hroom
  finishes h := by
    obtain ⟨hlaid, hcode⟩ := h.laid
    obtain ⟨p, hp, hconstants, hcode', hrow⟩ := hlaid.exists_program
    exact ⟨p, hp, hconstants, by rw [hcode', hcode], hrow⟩

/-- A block, and another one behind `descend`, that select the member of one name. -/
def twoBlocks : List BuilderCall :=
  [.intern (.name "a"), .openBlock, .append (.selectName 0), .closeBlock, .append .descend,
    .intern (.name "a"), .openBlock, .append (.selectName 0), .closeBlock]

lemma Orderly.length_code (h : Orderly inside history) :
    (built history).code.size = (history.filterMap BuilderCall.instruction?).length := by
  rw [← h.laid.2, List.length_map, Array.length_toList]

lemma answer_intern_name (key : String) :
    (built []).answer (.intern (.name key)) = .ok 0 := by
  simp [built, answer, intern, Constant.shared?, Quota.limit]

lemma Given.append {constant : Constant} {c : Nat} (h : Given constant c history)
    (calls : List BuilderCall) : Given constant c (history ++ calls) := by
  induction calls using List.reverseRecOn with
  | nil => rwa [List.append_nil]
  | append_singleton calls call ih =>
    rw [← List.append_assoc]
    exact ih.before call

/-- Both blocks come to an end, and the name that is added twice is held once. -/
theorem twoBlocks_lawful : Orderly false twoBlocks ∧ ∃ p, (built twoBlocks).program = .ok p ∧
    p.constants[0]? = some (.name "a") ∧ IsRow 0 p.code ∧
    p.code.map Instruction.unpatched = [.blockBegin 0, .selectName 0, .blockEnd, .descend,
      .blockBegin 0, .selectName 0, .blockEnd] := by
  have hgiven : Given (.name "a") 0 [.intern (.name "a")] := .now (answer_intern_name "a")
  have hoperand (calls : List BuilderCall) : ∀ c kind,
      (Instruction.selectName 0).operand? = some (c, kind) →
        ∃ k : Constant, k.kind = kind ∧ Given k c ([.intern (.name "a")] ++ calls) := by
    rintro c kind hc
    cases hc
    exact ⟨.name "a", rfl, hgiven.append calls⟩
  have hfirst := (Orderly.nil.intern (.name "a")).openBlock.select rfl (hoperand [.openBlock])
  have hbetween := (hfirst.closeBlock
    ⟨_, (history_lawful _).closes hfirst (by rw [hfirst.length_code]; decide)⟩).descend
  have hsecond := (hbetween.intern (.name "a")).openBlock.select rfl
    (hoperand (twoBlocks.tail.take 6))
  have horderly : Orderly false twoBlocks := hsecond.closeBlock
    ⟨_, (history_lawful _).closes hsecond (by rw [hsecond.length_code]; decide)⟩
  obtain ⟨p, hp, -, hcode, hrow⟩ := (history_lawful twoBlocks).finishes horderly
  obtain ⟨-, -, hkept⟩ :=
    (history_lawful twoBlocks).kept (.name "a") 0 (hgiven.append twoBlocks.tail)
  exact ⟨horderly, p, hp, hkept p hp, hrow, hcode⟩

end Builder
end JsonQuery
