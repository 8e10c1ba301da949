import JsonQuery.Proofs.Discipline

/-!
Programs that pass verification run safely: every step succeeds, and after finitely many the
program is at its end. Verification knows nothing of the numbers of a slice; they have to agree
with its opcode, or the loop over the array has no end.
-/

namespace JsonQuery

/-- The numbers of every slice lead the way that its opcode goes. -/
def Program.SlicesAgree (p : Program) : Prop :=
  ∀ o c numbers, .slice o c ∈ p.code → p.constants[c]? = some (.slice numbers) → o.Agrees numbers

/-! ### Programs within programs -/

mutual

/-- The programs of a filter, and those in their filters in turn. -/
def Condition.programs : Condition → List Program
  | .literal _ => []
  | .query _ program => program.programs
  | .not operand => operand.programs
  | .and left right => left.programs ++ right.programs
  | .or left right => left.programs ++ right.programs
  | .compare _ left right => left.programs ++ right.programs
  | .call _ _ args => Condition.programsOfAll args

def Condition.programsOfAll : List Condition → List Program
  | [] => []
  | f :: fs => f.programs ++ Condition.programsOfAll fs

def Constant.programs : Constant → List Program
  | .filter condition => condition.programs
  | _ => []

def Constant.programsOfAll : List Constant → List Program
  | [] => []
  | c :: cs => c.programs ++ Constant.programsOfAll cs

/-- A program and all those within its filters, at any depth. -/
def Program.programs : Program → List Program
  | ⟨code, constants, source⟩ => ⟨code, constants, source⟩ :: Constant.programsOfAll constants

end

/-! ### Verified programs -/

lemma Constant.operands_eq (root : Json) (constants : List Constant) :
    Constant.operands root constants = constants.map (Constant.operand root) := by
  induction constants with
  | nil => rw [operands, List.map_nil]
  | cons c cs ih => rw [operands, ih, List.map_cons]

lemma Program.machine_operand? (p : Program) (root : Json) {i : Instruction} {c : Nat}
    {kind : OperandKind} (h : i.operand? = some (c, kind)) :
    (p.machine root).operand? i = p.constants[c]?.map (Constant.operand root) := by
  simp [machine, Machine.operand?, h, Constant.operands_eq]

/-- A selector that refers to a constant of its kind finds the operand it needs. -/
lemma Program.answers_of_fits {p : Program} (hp : p.SlicesAgree) (root : Json) {i : Instruction}
    (hmem : i ∈ p.code) (hi : i.Fits p.constants) : (p.machine root).Answers i := by
  refine ⟨hi.1, fun node => ?_⟩
  have hrefers := hi.2
  cases i with
  | descend => exact absurd hi.1 (by decide)
  | blockBegin target => exact absurd hi.1 (by simp [Instruction.isSelector])
  | blockEnd => exact absurd hi.1 (by decide)
  | selectWildcard => exact ⟨_, rfl⟩
  | selectArrayAll => exact ⟨_, rfl⟩
  | sliceEmpty => exact ⟨_, rfl⟩
  | selectName c =>
    obtain ⟨constant, hc, hkind⟩ := Option.map_eq_some_iff.1 (hrefers c .name rfl)
    cases constant <;> cases hkind
    rw [p.machine_operand? root rfl, hc]
    exact ⟨_, rfl⟩
  | selectIndex c =>
    obtain ⟨constant, hc, hkind⟩ := Option.map_eq_some_iff.1 (hrefers c .index rfl)
    cases constant <;> cases hkind
    rw [p.machine_operand? root rfl, hc]
    exact ⟨_, rfl⟩
  | slice o c =>
    obtain ⟨constant, hc, hkind⟩ := Option.map_eq_some_iff.1 (hrefers c .slice rfl)
    cases constant <;> cases hkind
    rw [p.machine_operand? root rfl, hc]
    exact SliceOpcode.slice?_isSome (hp o c _ hmem hc) node
  | selectFilter c =>
    obtain ⟨constant, hc, hkind⟩ := Option.map_eq_some_iff.1 (hrefers c .filter rfl)
    cases constant <;> cases hkind
    rw [p.machine_operand? root rfl, hc]
    exact ⟨_, rfl⟩

/-- A verified program, ready to run, follows its parts. -/
theorem Program.follows_of_verify {p : Program} (hv : verify p.code p.constants = .ok ())
    (hp : p.SlicesAgree) (root : Json) :
    ∃ parts, p.code = Part.codeOfAll 0 parts ∧ (p.machine root).Follows parts := by
  obtain ⟨parts, hcode, hparts⟩ := parts_of_verify hv
  refine ⟨parts, hcode, by simpa [machine] using hcode, fun body hbody i hi => ?_⟩
  refine answers_of_fits hp root ?_ (hparts _ hbody i hi)
  rw [hcode]
  exact Part.mem_codeOfAll hbody hi

/-! ### Safety -/

/-- **Safety.** Of a program that is verified and whose slices agree with their opcodes, as are
all programs within its filters, every run is disciplined: no number of steps of any of these
programs, from any node of any document, ends in a fault, some number of them leads to the end
of the program, and the nodes at hand there are the result of the run. -/
theorem Program.run_disciplined (p : Program)
    (hp : ∀ q ∈ p.programs, Program.verify q.code q.constants = .ok () ∧ q.SlicesAgree) :
    ∀ q ∈ p.programs, ∀ root start : Json,
      (∀ n, ∃ s, (q.machine root).after n (.initial start) = .ok s ∧ Disciplined q.code s) ∧
      ∃ n s, (q.machine root).after n (.initial start) = .ok s ∧
        (q.machine root).atEnd s = true ∧
        (q.machine root).run (.initial start) = .ok s.working ∧
        q.runFrom root start = s.working.toList := by
  intro q hq root start
  obtain ⟨hv, hagree⟩ := hp q hq
  obtain ⟨parts, hcode, hfollows⟩ := follows_of_verify hv hagree root
  have hstart := Standing.initial parts start
  refine ⟨fun n => ?_, ?_⟩
  · obtain ⟨s, hs, hstanding⟩ := Machine.after_standing hfollows n hstart
    exact ⟨s, hs, hcode ▸ hstanding.disciplined⟩
  · obtain ⟨n, s, hs, hend, hrun⟩ := Machine.exists_after_atEnd hfollows _ hstart
    exact ⟨n, s, hs, hend, hrun, by rw [Program.runFrom_eq, hrun]⟩

/-- A program with every kind of operand: a downward slice, and a filter that runs a program
of its own. -/
def Program.sample : Program where
  code := [.descend, .blockBegin 6, .selectName 0, .selectIndex 1,
    .slice ⟨.backward, .absent, .fromEnd⟩ 2, .selectFilter 3, .blockEnd, .blockBegin 8, .blockEnd]
  constants := [.name "a", .index (-1), .slice ⟨0, -3, -2⟩,
    .filter (.not (.query .current ⟨[.blockBegin 2, .selectIndex 0, .blockEnd], [.index 0], none⟩))]
  source := none

theorem Program.sample_disciplined :
    (∀ q ∈ sample.programs, Program.verify q.code q.constants = .ok () ∧ q.SlicesAgree) ∧
    ∀ q ∈ sample.programs, ∀ root start : Json,
      (∀ n, ∃ s, (q.machine root).after n (.initial start) = .ok s ∧ Disciplined q.code s) ∧
      ∃ n s, (q.machine root).after n (.initial start) = .ok s ∧
        (q.machine root).atEnd s = true ∧
        (q.machine root).run (.initial start) = .ok s.working ∧
        q.runFrom root start = s.working.toList := by
  have h : ∀ q ∈ sample.programs,
      Program.verify q.code q.constants = .ok () ∧ q.SlicesAgree := by
    simp only [sample, Program.programs, Constant.programsOfAll, Constant.programs,
      Condition.programs, List.append_nil, List.nil_append, List.forall_mem_cons]
    refine ⟨⟨rfl, ?_⟩, ⟨rfl, ?_⟩, by simp⟩
    · intro o c numbers hmem hc
      simp at hmem
      obtain ⟨rfl, rfl⟩ := hmem
      obtain rfl : (⟨0, -3, -2⟩ : SliceNumbers) = numbers := by simpa using hc
      exact (by decide : (-2 : Int) < 0)
    · intro o c numbers hmem
      simp at hmem
  exact ⟨h, Program.run_disciplined sample h⟩

end JsonQuery
