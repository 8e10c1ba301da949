import JsonQuery.Program.Basic
import Mathlib.Algebra.GroupWithZero.Nat
import Mathlib.Tactic.Lemma
import Mathlib.Tactic.SplitIfs

/-!
The parts of a program. What passes verification is a row of parts, each either one `descend`
or a whole block: its begin, selectors, and its end, to which the begin leads.
-/

namespace JsonQuery

inductive Part where
  | descend
  | block (body : List Instruction)

namespace Part

/-- The number of instructions of a part. -/
def size : Part → Nat
  | .descend => 1
  | .block body => body.length + 2

def sizeOfAll (parts : List Part) : Nat := (parts.map size).sum

/-- The instructions of a part that stands at `pc`. -/
def code (pc : Nat) : Part → List Instruction
  | .descend => [.descend]
  | .block body => .blockBegin (pc + body.length + 1) :: (body ++ [.blockEnd])

/-- The instructions of parts that stand from `pc` on. -/
def codeOfAll (pc : Nat) : List Part → List Instruction
  | [] => []
  | p :: ps => p.code pc ++ codeOfAll (pc + p.size) ps

@[simp] lemma sizeOfAll_nil : sizeOfAll [] = 0 := rfl

@[simp] lemma sizeOfAll_cons (p : Part) (ps : List Part) :
    sizeOfAll (p :: ps) = p.size + sizeOfAll ps := rfl

@[simp] lemma sizeOfAll_append (ps qs : List Part) :
    sizeOfAll (ps ++ qs) = sizeOfAll ps + sizeOfAll qs := by
  simp [sizeOfAll]

@[simp] lemma length_code (pc : Nat) (p : Part) : (p.code pc).length = p.size := by
  cases p <;> simp [code, size]

@[simp] lemma length_codeOfAll (pc : Nat) (ps : List Part) :
    (codeOfAll pc ps).length = sizeOfAll ps := by
  induction ps generalizing pc with
  | nil => rfl
  | cons p ps ih => simp [codeOfAll, ih]

lemma codeOfAll_append (pc : Nat) (ps qs : List Part) :
    codeOfAll pc (ps ++ qs) = codeOfAll pc ps ++ codeOfAll (pc + sizeOfAll ps) qs := by
  induction ps generalizing pc with
  | nil => simp [codeOfAll]
  | cons p ps ih => simp [codeOfAll, ih, Nat.add_assoc]

/-- Where a row of parts is split, the code after the first ones is that of the others. -/
lemma getElem?_codeOfAll (before after : List Part) (k : Nat) :
    (codeOfAll 0 (before ++ after))[sizeOfAll before + k]? =
      (codeOfAll (sizeOfAll before) after)[k]? := by
  rw [codeOfAll_append, Nat.zero_add, List.getElem?_append_right (by simp)]
  simp

/-! The selectors of a row of parts are those of its blocks. -/

lemma mem_codeOfAll {pc : Nat} {parts : List Part} {body : List Instruction}
    (h : .block body ∈ parts) {i : Instruction} (hi : i ∈ body) : i ∈ codeOfAll pc parts := by
  induction parts generalizing pc with
  | nil => cases h
  | cons p ps ih =>
    rw [codeOfAll, List.mem_append]
    rcases List.mem_cons.1 h with rfl | h
    · exact .inl (by simp [code, hi])
    · exact .inr (ih h)

/-- A selector of a row of parts stands in one of its blocks. -/
lemma exists_block_of_mem {pc : Nat} {parts : List Part} {i : Instruction}
    (hi : i.isSelector = true) (h : i ∈ codeOfAll pc parts) :
    ∃ body, .block body ∈ parts ∧ i ∈ body := by
  induction parts generalizing pc with
  | nil => cases h
  | cons p ps ih =>
    rw [codeOfAll, List.mem_append] at h
    rcases h with h | h
    · cases p with
      | descend =>
        obtain rfl := List.mem_singleton.1 h
        cases hi
      | block body =>
        refine ⟨body, List.mem_cons_self, ?_⟩
        rw [code, List.mem_cons, List.mem_append, List.mem_singleton] at h
        rcases h with rfl | h | rfl
        · cases hi
        · exact h
        · cases hi
    · obtain ⟨body, hbody, hmem⟩ := ih h
      exact ⟨body, List.mem_cons_of_mem _ hbody, hmem⟩

end Part

/-! ### Verification -/

/-- What succeeds in two steps succeeds in each. -/
lemma bind_eq_ok {ε α β : Type} {x : Except ε α} {f : α → Except ε β} {y : β}
    (h : (x >>= f) = .ok y) : ∃ a, x = .ok a ∧ f a = .ok y := by
  cases x with
  | error e => cases h
  | ok a => exact ⟨a, rfl, h⟩

/-- The operand of an instruction is a constant of its kind. -/
def Instruction.Refers (constants : List Constant) (i : Instruction) : Prop :=
  ∀ c kind, i.operand? = some (c, kind) → constants[c]?.map Constant.kind = some kind

/-- A selector that may stand in a block of a program with these constants. -/
def Instruction.Fits (constants : List Constant) (i : Instruction) : Prop :=
  i.isSelector = true ∧ i.Refers constants

/-- All blocks hold nothing but selectors that may stand there. -/
def Part.Fits (constants : List Constant) : Part → Prop
  | .descend => True
  | .block body => ∀ i ∈ body, i.Fits constants

namespace Program

variable {constants : List Constant}

lemma refers_of_referenced {pc : Nat} {i : Instruction}
    (h : referenced (constants.map Constant.kind).toArray pc i = .ok ()) : i.Refers constants := by
  intro c kind hi
  simp only [referenced, hi] at h
  split_ifs at h with hc
  simpa using hc

/-- What one checked instruction tells. -/
lemma verifyFrom_cons {kinds : Array OperandKind} {pc : Nat} {block : Option (Nat × Nat)}
    {i : Instruction} {code : List Instruction}
    (h : verifyFrom kinds pc block (i :: code) = .ok ()) :
    ∃ next, placed pc i block = .ok next ∧ referenced kinds pc i = .ok () ∧
      verifyFrom kinds (pc + 1) next code = .ok () := by
  rw [verifyFrom] at h
  obtain ⟨next, hp, h⟩ := bind_eq_ok h
  obtain ⟨_, hr, h⟩ := bind_eq_ok h
  exact ⟨next, hp, hr, h⟩

lemma placed_selector {pc : Nat} {i : Instruction} (hi : i.isSelector = true) (block : Nat × Nat) :
    placed pc i (some block) = .ok (some block) := by
  cases i <;> first | rfl | cases hi

/-- Within a block, selectors follow up to its end, which stands at the target. -/
lemma body_of_verifyFrom {pc start target : Nat} {code : List Instruction}
    (h : verifyFrom (constants.map Constant.kind).toArray pc (some (start, target)) code = .ok ()) :
    ∃ body rest, code = body ++ .blockEnd :: rest ∧ target = pc + body.length ∧
      (∀ i ∈ body, i.Fits constants) ∧
      verifyFrom (constants.map Constant.kind).toArray (target + 1) none rest = .ok () := by
  induction code generalizing pc with
  | nil => cases h
  | cons i code ih =>
    obtain ⟨next, hp, hr, hv⟩ := verifyFrom_cons h
    by_cases hi : i.isSelector = true
    · rw [placed_selector hi] at hp
      obtain rfl := Except.ok.inj hp
      obtain ⟨body, rest, rfl, rfl, hbody, hrest⟩ := ih hv
      refine ⟨i :: body, rest, rfl, by simp; omega, ?_, hrest⟩
      exact List.forall_mem_cons.2 ⟨⟨hi, refers_of_referenced hr⟩, hbody⟩
    · cases i with
      | descend => cases hp
      | blockBegin t => cases hp
      | blockEnd =>
        simp only [placed] at hp
        split_ifs at hp with ht
        obtain rfl := Except.ok.inj hp
        subst ht
        exact ⟨[], code, rfl, rfl, by simp, hv⟩
      | _ => exact absurd rfl hi

/-- What passes verification is a row of parts. -/
theorem parts_of_verifyFrom {pc : Nat} {code : List Instruction}
    (h : verifyFrom (constants.map Constant.kind).toArray pc none code = .ok ()) :
    ∃ parts, code = Part.codeOfAll pc parts ∧ ∀ p ∈ parts, p.Fits constants := by
  induction hn : code.length using Nat.strongRecOn generalizing pc code with
  | _ n ih =>
    cases code with
    | nil => exact ⟨[], rfl, by simp⟩
    | cons i code =>
      obtain ⟨next, hp, hr, hv⟩ := verifyFrom_cons h
      cases i with
      | descend =>
        obtain rfl := Except.ok.inj hp
        obtain ⟨parts, rfl, hparts⟩ := ih _ (by simp [← hn]) hv rfl
        exact ⟨.descend :: parts, rfl, List.forall_mem_cons.2 ⟨trivial, hparts⟩⟩
      | blockBegin target =>
        obtain rfl := Except.ok.inj hp
        obtain ⟨body, rest, rfl, rfl, hbody, hrest⟩ := body_of_verifyFrom hv
        obtain ⟨parts, rfl, hparts⟩ := ih _ (by simp [← hn]; omega) hrest rfl
        refine ⟨.block body :: parts, ?_, List.forall_mem_cons.2 ⟨hbody, hparts⟩⟩
        rw [Part.codeOfAll, Part.code, Part.size, Nat.add_right_comm pc 1]
        simp [Nat.add_assoc]
      | _ => cases hp

theorem parts_of_verify {code : List Instruction} (h : verify code constants = .ok ()) :
    ∃ parts, code = Part.codeOfAll 0 parts ∧ ∀ p ∈ parts, p.Fits constants :=
  parts_of_verifyFrom h

lemma referenced_of_refers {i : Instruction} (h : i.Refers constants) (pc : Nat) :
    referenced (constants.map Constant.kind).toArray pc i = .ok () := by
  rw [referenced]
  split
  · rfl
  · rename_i c kind hi
    rw [if_pos]
    simpa using h c kind hi

/-- Verification of a block goes past its selectors. -/
lemma verifyFrom_body {body code : List Instruction} (hbody : ∀ i ∈ body, i.Fits constants)
    (pc : Nat) (block : Nat × Nat) :
    verifyFrom (constants.map Constant.kind).toArray pc (some block) (body ++ code) =
      verifyFrom (constants.map Constant.kind).toArray (pc + body.length) (some block) code := by
  induction body generalizing pc with
  | nil => rfl
  | cons i body ih =>
    obtain ⟨⟨hi, hrefers⟩, hbody⟩ := List.forall_mem_cons.1 hbody
    rw [List.cons_append, verifyFrom, placed_selector hi, referenced_of_refers hrefers,
      List.length_cons, Nat.add_comm body.length, ← Nat.add_assoc]
    exact ih hbody (pc + 1)

/-- A row of parts passes verification. -/
theorem verifyFrom_codeOfAll {parts : List Part} (hparts : ∀ p ∈ parts, p.Fits constants)
    (pc : Nat) :
    verifyFrom (constants.map Constant.kind).toArray pc none (Part.codeOfAll pc parts) =
      .ok () := by
  induction parts generalizing pc with
  | nil => rfl
  | cons p ps ih =>
    obtain ⟨hp, hps⟩ := List.forall_mem_cons.1 hparts
    cases p with
    | descend => exact ih hps (pc + 1)
    | block body =>
      have hend : pc + 1 + body.length = pc + body.length + 1 := Nat.add_right_comm ..
      calc verifyFrom _ pc none (Part.codeOfAll pc (.block body :: ps))
        _ = verifyFrom _ (pc + 1) (some (pc, pc + body.length + 1))
            (body ++ .blockEnd :: Part.codeOfAll (pc + (Part.block body).size) ps) := by
          simp only [Part.codeOfAll, Part.code, List.cons_append, List.append_assoc]
          rfl
        _ = verifyFrom _ (pc + body.length + 1) (some (pc, pc + body.length + 1))
            (.blockEnd :: Part.codeOfAll (pc + (Part.block body).size) ps) := by
          rw [verifyFrom_body hp, hend]
        _ = verifyFrom _ (pc + (Part.block body).size) none
            (Part.codeOfAll (pc + (Part.block body).size) ps) := by
          rw [verifyFrom, placed, if_pos rfl]
          rfl
        _ = .ok () := ih hps _

theorem verify_codeOfAll {parts : List Part} (hparts : ∀ p ∈ parts, p.Fits constants) :
    verify (Part.codeOfAll 0 parts) constants = .ok () :=
  verifyFrom_codeOfAll hparts 0

end Program
end JsonQuery
