import JsonQuery.Proofs.Parts

/-!
What verification accepts, said of the instructions alone: parts that follow one another, none
of them within another, where the begin of a block names the place of its own end, and operands
that find a constant of their kind.
-/

namespace JsonQuery

/-- The instructions of one part that stands at `pc`. -/
inductive IsPart (pc : Nat) : List Instruction → Prop
  | descend : IsPart pc [.descend]
  | block {target : Nat} {body : List Instruction} (hbody : ∀ i ∈ body, i.isSelector = true)
    (htarget : target = pc + (body.length + 1)) :
    IsPart pc (.blockBegin target :: (body ++ [.blockEnd]))

/-- The instructions of parts that stand one after the other from `pc` on. -/
inductive IsRow : Nat → List Instruction → Prop
  | nil {pc : Nat} : IsRow pc []
  | cons {pc : Nat} {part code : List Instruction} (h : IsPart pc part)
    (hrest : IsRow (pc + part.length) code) : IsRow pc (part ++ code)

/-- A part whose blocks hold nothing but selectors. -/
def Part.HoldsSelectors : Part → Prop
  | .descend => True
  | .block body => ∀ i ∈ body, i.isSelector = true

lemma isPart_iff {pc : Nat} {code : List Instruction} :
    IsPart pc code ↔ ∃ p : Part, p.HoldsSelectors ∧ code = p.code pc := by
  constructor
  · rintro (_ | ⟨hbody, rfl⟩)
    · exact ⟨.descend, trivial, rfl⟩
    · exact ⟨.block _, hbody, rfl⟩
  · rintro ⟨_ | body, hp, rfl⟩
    · exact .descend
    · exact .block hp rfl

lemma isRow_iff {pc : Nat} {code : List Instruction} :
    IsRow pc code ↔ ∃ parts, (∀ p ∈ parts, p.HoldsSelectors) ∧ code = Part.codeOfAll pc parts := by
  constructor
  · intro h
    induction h with
    | nil => exact ⟨[], by simp, rfl⟩
    | cons h _ ih =>
      obtain ⟨p, hp, rfl⟩ := isPart_iff.1 h
      obtain ⟨parts, hparts, rfl⟩ := ih
      rw [Part.length_code]
      exact ⟨p :: parts, List.forall_mem_cons.2 ⟨hp, hparts⟩, rfl⟩
  · rintro ⟨parts, hparts, rfl⟩
    induction parts generalizing pc with
    | nil => exact .nil
    | cons p ps ih =>
      obtain ⟨hp, hps⟩ := List.forall_mem_cons.1 hparts
      refine .cons (isPart_iff.2 ⟨p, hp, rfl⟩) ?_
      rw [Part.length_code]
      exact ih hps

section Operands

variable {constants : List Constant}

lemma Instruction.isSelector_of_operand? {i : Instruction} {c : Nat} {kind : OperandKind}
    (h : i.operand? = some (c, kind)) : i.isSelector = true := by
  cases i with
  | descend | blockBegin | blockEnd => cases h
  | _ => rfl

lemma Instruction.refers_iff {i : Instruction} :
    i.Refers constants ↔ ∀ c kind, i.operand? = some (c, kind) →
      ∃ h : c < constants.length, constants[c].kind = kind := by
  refine forall₂_congr fun c kind => imp_congr_right fun _ => ?_
  rw [Option.map_eq_some_iff]
  constructor
  · rintro ⟨k, hk, rfl⟩
    obtain ⟨hc, rfl⟩ := List.getElem?_eq_some_iff.1 hk
    exact ⟨hc, rfl⟩
  · rintro ⟨hc, hkind⟩
    exact ⟨_, List.getElem?_eq_getElem hc, hkind⟩

/-- The parts fit if they hold only selectors, and all of these find their constants. -/
lemma Part.forall_fits_iff (pc : Nat) {parts : List Part} :
    (∀ p ∈ parts, p.Fits constants) ↔
      (∀ p ∈ parts, p.HoldsSelectors) ∧ ∀ i ∈ codeOfAll pc parts, i.Refers constants := by
  constructor
  · intro h
    refine ⟨fun p hp => ?_, fun i hi c kind hoperand => ?_⟩
    · cases p with
      | descend => trivial
      | block body => exact fun i hi => (h _ hp i hi).1
    · obtain ⟨body, hbody, hmem⟩ :=
        exists_block_of_mem (Instruction.isSelector_of_operand? hoperand) hi
      exact (h _ hbody i hmem).2 c kind hoperand
  · rintro ⟨hselectors, hrefers⟩ p hp
    cases p with
    | descend => trivial
    | block body => exact fun i hi => ⟨hselectors _ hp i hi, hrefers i (mem_codeOfAll hp hi)⟩

end Operands

/-- **What verification accepts.** Whatever the instructions and the constants, they pass if and
only if the instructions are parts that follow one another from the first index on, each of
them a `descend` or a block whose begin names the index of its end with nothing but selectors
between the two, and every operand is the index of a constant of the kind that its instruction
asks for. -/
theorem Program.verify_eq_ok_iff (code : List Instruction) (constants : List Constant) :
    verify code constants = .ok () ↔
      IsRow 0 code ∧ ∀ i ∈ code, ∀ c kind, i.operand? = some (c, kind) →
        ∃ h : c < constants.length, constants[c].kind = kind := by
  simp only [← Instruction.refers_iff]
  constructor
  · intro h
    obtain ⟨parts, rfl, hparts⟩ := parts_of_verify h
    obtain ⟨hselectors, hrefers⟩ := (Part.forall_fits_iff 0).1 hparts
    exact ⟨isRow_iff.2 ⟨parts, hselectors, rfl⟩, hrefers⟩
  · rintro ⟨hrow, hrefers⟩
    obtain ⟨parts, hselectors, rfl⟩ := isRow_iff.1 hrow
    exact verify_codeOfAll ((Part.forall_fits_iff 0).2 ⟨hselectors, hrefers⟩)

end JsonQuery
