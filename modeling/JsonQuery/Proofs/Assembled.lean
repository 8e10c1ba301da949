import JsonQuery.Proofs.Conditions
import JsonQuery.Proofs.Demands

/-!
What is assembled is well formed: it passes verification, and each slice opcode says the truth
about the numbers it refers to, in the program of a query and in those of the queries within
its filters.
-/

namespace JsonQuery

/-! ### Well-formed programs -/

/-- What an opcode says of a bound. -/
def Bound.Describes : Bound → Int → Prop
  | .absent, n => n = 0
  | .fromStart, n => 0 ≤ n
  | .fromEnd, n => n < 0

/-- An opcode that is right about the direction of its slice and about both bounds. -/
structure SliceOpcode.Describes (o : SliceOpcode) (numbers : SliceNumbers) : Prop where
  step : o.Agrees numbers
  start : o.start.Describes numbers.start
  stop : o.stop.Describes numbers.stop

/-- A program that passes verification, and whose opcodes describe their slices. -/
structure Program.WellFormed (p : Program) : Prop where
  verified : verify p.code p.constants = .ok ()
  slices : ∀ o c, .slice o c ∈ p.code →
    ∃ numbers, p.constants[c]? = some (.slice numbers) ∧ o.Describes numbers

lemma Bound.of_describes (n : Option Int) : (Bound.of n).Describes (n.getD 0) := by
  cases n with
  | none => rfl
  | some n =>
    rw [Bound.of]
    split_ifs with hn
    · exact hn
    · exact Int.not_le.1 hn

lemma Slice.describes_of_form {s : Slice} {o : SliceOpcode} (h : s.form = .opcode o) :
    o.Describes s.numbers where
  step := agrees_of_form h
  start := by obtain ⟨-, rfl⟩ | ⟨-, rfl⟩ := opcode_of_form h <;> exact Bound.of_describes s.start
  stop := by obtain ⟨-, rfl⟩ | ⟨-, rfl⟩ := opcode_of_form h <;> exact Bound.of_describes s.stop

/-! ### Layouts -/

variable {r : Registry} {constants : List Constant}

lemma Lowered.fits {s : Selector} {i : Instruction} (h : Lowered r constants s i) :
    i.Fits constants := by
  refine ⟨isSelector_of_lowered h, ?_⟩
  intro c kind hi
  cases h with
  | wildcard => cases hi
  | nothing => cases hi
  | everything => cases hi
  | name hc => cases hi; rw [hc]; rfl
  | index hc => cases hi; rw [hc]; rfl
  | slice _ hc => cases hi; rw [hc]; rfl
  | filter _ hc => cases hi; rw [hc]; rfl

/-- Every instruction of a block is what some selector becomes. -/
lemma exists_lowered_of_mem {selectors : List Selector} {body : List Instruction}
    (h : List.Forall₂ (Lowered r constants) selectors body) :
    ∀ i ∈ body, ∃ s, Lowered r constants s i := by
  induction h with
  | nil => simp
  | cons hs _ ih => exact List.forall_mem_cons.2 ⟨⟨_, hs⟩, ih⟩

lemma Lays.exists_lowered {ss : List Segment} {parts : List Part} (h : Lays r constants ss parts) :
    ∀ body, .block body ∈ parts → ∀ i ∈ body, ∃ s, Lowered r constants s i := by
  induction h with
  | nil => simp
  | child hbody _ ih =>
    intro body hmem
    rcases List.mem_cons.1 hmem with heq | hmem
    · cases heq
      exact exists_lowered_of_mem hbody
    · exact ih body hmem
  | descendant hbody _ ih =>
    intro body hmem
    rcases List.mem_cons.1 hmem with heq | hmem
    · cases heq
    rcases List.mem_cons.1 hmem with heq | hmem
    · cases heq
      exact exists_lowered_of_mem hbody
    · exact ih body hmem

lemma Lays.fits {ss : List Segment} {parts : List Part} (h : Lays r constants ss parts) :
    ∀ p ∈ parts, p.Fits constants := by
  intro p hp
  cases p with
  | descend => trivial
  | block body =>
    intro i hi
    obtain ⟨s, hs⟩ := h.exists_lowered body hp i hi
    exact hs.fits

/-! ### Programs -/

/-- What has been built of segments is a program, and a well-formed one. -/
theorem Registry.program_of_assembleSegments {ss : List Segment} {b : Builder}
    (hb : r.assembleSegments {} ss = .ok b) :
    ∃ p, b.program = .ok p ∧ p.WellFormed := by
  obtain ⟨parts, hcode, -, hlays⟩ := assembleSegments_spec Builder.sound_empty hb
  have hcode : b.code.toList = Part.codeOfAll 0 parts := by simpa using hcode
  have hverified : Program.verify b.code.toList b.constants.toList = .ok () := by
    rw [hcode]
    exact Program.verify_codeOfAll hlays.fits
  refine ⟨_, by rw [Builder.program, Program.ofParts, hverified]; rfl, hverified, ?_⟩
  intro o c hmem
  dsimp only at hmem
  rw [hcode] at hmem
  obtain ⟨body, hbody, hi⟩ := Part.exists_block_of_mem rfl hmem
  obtain ⟨s, hs⟩ := hlays.exists_lowered body hbody _ hi
  cases hs with
  | slice hform hc => exact ⟨_, hc, Slice.describes_of_form hform⟩

/-- What a program of a query was built of. -/
lemma Registry.exists_of_assemble {q : Query} {p : Program} (h : r.assemble q = .ok p) :
    ∃ b p', r.assembleSegments {} q = .ok b ∧ b.program = .ok p' ∧
      p = p'.setSource (Query.text q) := by
  rw [assemble] at h
  obtain ⟨b, hb, h⟩ := bind_eq_ok h
  obtain ⟨p', hp', h⟩ := bind_eq_ok h
  cases h
  exact ⟨b, p', hb, hp', rfl⟩

lemma Program.WellFormed.setSource {p : Program} (h : p.WellFormed) (source : String) :
    (p.setSource source).WellFormed :=
  ⟨h.verified, h.slices⟩

lemma Constant.mem_programsOfAll {cs : List Constant} {p : Program} :
    p ∈ programsOfAll cs ↔ ∃ c, .filter c ∈ cs ∧ p ∈ c.programs := by
  induction cs with
  | nil => simp [programsOfAll]
  | cons k cs ih =>
    rw [programsOfAll, List.mem_append, ih]
    cases k <;> simp [programs, or_and_right, exists_or]

lemma Condition.mem_programsOfAll {cs : List Condition} {p : Program} :
    p ∈ programsOfAll cs ↔ ∃ c ∈ cs, p ∈ c.programs := by
  induction cs with
  | nil => simp [programsOfAll]
  | cons c cs ih => rw [programsOfAll, List.mem_append, ih]; simp

/-- All programs in what a filter is compiled to are well formed. -/
def Filter.YieldsWellFormed (r : Registry) (f : Filter) : Prop :=
  ∀ c, r.assembleFilter f = .ok c → ∀ p ∈ c.programs, p.WellFormed

lemma wellFormed_of_assembleSegments {ss : List Segment} {b : Builder} {p : Program}
    (hfilters : ∀ s ∈ ss, ∀ f, .filter f ∈ s.selectors → f.YieldsWellFormed r)
    (hb : r.assembleSegments {} ss = .ok b) (hp : b.program = .ok p) (source : String) :
    ∀ p' ∈ (p.setSource source).programs, p'.WellFormed := by
  obtain ⟨p₀, hp₀, hwell⟩ := Registry.program_of_assembleSegments hb
  obtain rfl := Except.ok.inj (hp₀.symm.trans hp)
  intro p' hp'
  cases p₀ with
  | mk code constants source₀ =>
    rw [Program.setSource, Program.programs, List.mem_cons, Constant.mem_programsOfAll] at hp'
    rcases hp' with rfl | ⟨c, hc, hp'⟩
    · exact hwell.setSource source
    · obtain ⟨o, ho, hoc⟩ := Registry.condition_of_program hb hp (Program.mem_conditions.2 hc)
      obtain ⟨s, hs, f, hf, rfl⟩ := Occurrence.mem_conditions.1 ho
      exact hfilters s hs f hf c hoc p' hp'

lemma Filter.yieldsWellFormed (r : Registry) (f : Filter) : f.YieldsWellFormed r := by
  induction f using Filter.induction with
  | literal value =>
    intro c h p hp
    cases h
    cases hp
  | query origin segments ih =>
    intro c h p hp
    cases Registry.compiles_of_assembleFilter h with
    | query hb hprogram =>
      rw [Condition.programs] at hp
      exact wellFormed_of_assembleSegments ih hb hprogram _ p hp
  | not operand ih =>
    intro c h p hp
    cases Registry.compiles_of_assembleFilter h with
    | not hinner =>
      rw [Condition.programs] at hp
      exact ih _ hinner p hp
  | binary op left right ihl ihr =>
    intro c h p hp
    have hpair : ∀ {l l' : Condition}, r.assembleFilter left = .ok l →
        r.assembleFilter right = .ok l' → p ∈ l.programs ++ l'.programs → p.WellFormed := by
      intro l l' hl hl' hmem
      rcases List.mem_append.1 hmem with hmem | hmem
      · exact ihl l hl p hmem
      · exact ihr l' hl' p hmem
    cases Registry.compiles_of_assembleFilter h with
    | and hl hl' => exact hpair hl hl' (by rwa [Condition.programs] at hp)
    | or hl hl' => exact hpair hl hl' (by rwa [Condition.programs] at hp)
    | compare _ hl hl' => exact hpair hl hl' (by rwa [Condition.programs] at hp)
  | call name args ih =>
    intro c h p hp
    cases Registry.compiles_of_assembleFilter h with
    | call _ hargs =>
      rw [Condition.programs, Condition.mem_programsOfAll] at hp
      obtain ⟨c', hc', hp⟩ := hp
      obtain ⟨arg, harg, hcompiled⟩ := Registry.exists_of_assembleArguments hargs hc'
      exact ih arg harg c' hcompiled p hp

end JsonQuery
