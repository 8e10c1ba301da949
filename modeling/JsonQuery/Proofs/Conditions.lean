import JsonQuery.Proofs.Meaning
import JsonQuery.Proofs.Occurrences

/-!
The conditions of a compiled program, those of the programs within them included. Each of them
is what some expression in the filters of the query was compiled to, so what is known of the
occurrences of a query is known of all that its program evaluates.
-/

namespace JsonQuery

/-- The condition that a constant holds. -/
def Constant.condition? : Constant → Option Condition
  | .filter condition => some condition
  | _ => none

/-- The conditions among the constants of a program, those within them left out. -/
def Program.conditions (p : Program) : List Condition :=
  p.constants.filterMap Constant.condition?

/-- The conditions directly below a condition. -/
def Condition.operands : Condition → List Condition
  | .literal _ => []
  | .query _ program => program.conditions
  | .not operand => [operand]
  | .and left right => [left, right]
  | .or left right => [left, right]
  | .compare _ left right => [left, right]
  | .call _ _ args => args

/-- What a program evaluates, at any depth. -/
inductive Program.Holds (p : Program) : Condition → Prop
  | condition {c : Condition} (h : c ∈ p.conditions) : p.Holds c
  | operand {c c' : Condition} (h : p.Holds c) (h' : c' ∈ c.operands) : p.Holds c'

lemma Program.mem_conditions {p : Program} {c : Condition} :
    c ∈ p.conditions ↔ .filter c ∈ p.constants := by
  rw [conditions, List.mem_filterMap]
  constructor
  · rintro ⟨k, hk, h⟩
    cases k <;> cases h
    exact hk
  · intro h
    exact ⟨_, h, rfl⟩

/-! ### Constants that are conditions -/

namespace Builder

variable {b b' : Builder}

/-- No constant comes in but the one that is interned. -/
lemma mem_of_intern {constant k : Constant} {c : Nat} (h : b.intern constant = (.ok c, b'))
    (hk : k ∈ b'.constants) : k ∈ b.constants ∨ k = constant := by
  rw [intern] at h
  split at h
  · cases h
    exact .inl hk
  · dsimp only at h
    split_ifs at h
    · cases h
    · cases h
      exact Array.mem_push.1 hk

lemma mem_of_appendWith {constant k : Constant} {instruction : Nat → Instruction}
    (h : b.appendWith constant instruction = .ok b') (hk : k ∈ b'.constants) :
    k ∈ b.constants ∨ k = constant := by
  rw [appendWith] at h
  split at h
  · rename_i c b₁ hb₁
    cases h
    exact mem_of_intern hb₁ hk
  · cases h

lemma constants_startSegment (b : Builder) (descendant : Bool) :
    (b.startSegment descendant).constants = b.constants := by
  cases descendant <;> rfl

lemma constants_finishSegment (h : b.finishSegment = .ok b') : b'.constants = b.constants := by
  rw [finishSegment, closeBlock] at h
  rcases hblock : b.block with _ | start <;> simp only [append, hblock] at h
  · split_ifs at h
  · split_ifs at h
    cases h
    rfl

end Builder

namespace Registry

variable {r : Registry} {b b' : Builder} {c : Condition}

lemma condition_of_assembleSelector {s : Selector} (h : r.assembleSelector b s = .ok b')
    (hc : .filter c ∈ b'.constants) :
    .filter c ∈ b.constants ∨ ∃ f, s = .filter f ∧ r.assembleFilter f = .ok c := by
  cases s with
  | name key =>
    obtain hc | hc := Builder.mem_of_appendWith h hc
    · exact .inl hc
    · cases hc
  | index position =>
    obtain hc | hc := Builder.mem_of_appendWith h hc
    · exact .inl hc
    · cases hc
  | wildcard =>
    cases h
    exact .inl hc
  | slice s =>
    rw [assembleSelector, Builder.appendSlice] at h
    split at h
    · cases h
      exact .inl hc
    · cases h
      exact .inl hc
    · obtain hc | hc := Builder.mem_of_appendWith h hc
      · exact .inl hc
      · cases hc
  | filter f =>
    rw [assembleSelector] at h
    obtain ⟨condition, hf, h⟩ := bind_eq_ok h
    obtain hc | hc := Builder.mem_of_appendWith h hc
    · exact .inl hc
    · cases hc
      exact .inr ⟨f, rfl, hf⟩

lemma condition_of_assembleSelectors {ss : List Selector} (h : r.assembleSelectors b ss = .ok b')
    (hc : .filter c ∈ b'.constants) :
    .filter c ∈ b.constants ∨ ∃ f, .filter f ∈ ss ∧ r.assembleFilter f = .ok c := by
  induction ss generalizing b with
  | nil =>
    cases h
    exact .inl hc
  | cons s ss ih =>
    rw [assembleSelectors] at h
    obtain ⟨b₁, hs, h⟩ := bind_eq_ok h
    obtain hc | ⟨f, hf, hfc⟩ := ih h
    · obtain hc | ⟨f, rfl, hfc⟩ := condition_of_assembleSelector hs hc
      · exact .inl hc
      · exact .inr ⟨f, by simp, hfc⟩
    · exact .inr ⟨f, by simp [hf], hfc⟩

/-- A condition among the constants is what a filter of the segments was compiled to. -/
lemma condition_of_assembleSegments {ss : List Segment} (h : r.assembleSegments b ss = .ok b')
    (hc : .filter c ∈ b'.constants) :
    .filter c ∈ b.constants ∨ ∃ o ∈ Query.conditions ss, r.assembleFilter o.filter = .ok c := by
  induction ss generalizing b with
  | nil =>
    cases h
    exact .inl hc
  | cons s ss ih =>
    obtain ⟨descendant, selectors⟩ := s
    rw [assembleSegments] at h
    obtain ⟨b₁, hss, h⟩ := bind_eq_ok h
    obtain ⟨b₂, hfinish, h⟩ := bind_eq_ok h
    rw [Occurrence.conditions_cons]
    obtain hc | ⟨o, ho, hoc⟩ := ih h
    · rw [Builder.constants_finishSegment hfinish] at hc
      obtain hc | ⟨f, hf, hfc⟩ := condition_of_assembleSelectors hss hc
      · rw [Builder.constants_startSegment] at hc
        exact .inl hc
      · have hmem : (⟨f, .logical⟩ : Occurrence) ∈ selectors.filterMap Selector.condition? :=
          List.mem_filterMap.2 ⟨_, hf, rfl⟩
        exact .inr ⟨_, List.mem_append_left _ hmem, hfc⟩
    · exact .inr ⟨o, List.mem_append_right _ ho, hoc⟩

lemma condition_of_program {ss : List Segment} {p : Program} (h : r.assembleSegments {} ss = .ok b)
    (hp : b.program = .ok p) (hc : c ∈ p.conditions) :
    ∃ o ∈ Query.conditions ss, r.assembleFilter o.filter = .ok c := by
  obtain rfl := eq_of_program hp
  obtain hc | ho := condition_of_assembleSegments h (by simpa [Program.mem_conditions] using hc)
  · simp at hc
  · exact ho

/-! ### Conditions within conditions -/

lemma exists_of_assembleArguments {args : List Filter} {cs : List Condition}
    (h : r.assembleArguments args = .ok cs) (hc : c ∈ cs) :
    ∃ arg ∈ args, r.assembleFilter arg = .ok c := by
  induction args generalizing cs with
  | nil =>
    cases h
    cases hc
  | cons arg args ih =>
    rw [assembleArguments] at h
    obtain ⟨c', harg, h⟩ := bind_eq_ok h
    obtain ⟨cs', hargs, h⟩ := bind_eq_ok h
    cases h
    obtain rfl | hc := List.mem_cons.1 hc
    · exact ⟨arg, List.mem_cons_self, harg⟩
    · obtain ⟨arg', harg', hc'⟩ := ih hargs hc
      exact ⟨arg', List.mem_cons_of_mem _ harg', hc'⟩

/-- What an expression is compiled to, by what its parts are compiled to. -/
inductive Compiles (r : Registry) : Filter → Condition → Prop
  | literal {value : Literal} : r.Compiles (.literal value) (.literal value.json)
  | query {origin : Origin} {segments : List Segment} {b : Builder} {p : Program}
    (hb : r.assembleSegments {} segments = .ok b) (hp : b.program = .ok p) :
    r.Compiles (.query origin segments)
      (.query origin (p.setSource (.ofList (Segment.charsOfAll segments))))
  | not {operand : Filter} {c : Condition} (h : r.assembleFilter operand = .ok c) :
    r.Compiles (.not operand) (.not c)
  | and {left right : Filter} {l l' : Condition} (hl : r.assembleFilter left = .ok l)
    (hl' : r.assembleFilter right = .ok l') : r.Compiles (.binary .and left right) (.and l l')
  | or {left right : Filter} {l l' : Condition} (hl : r.assembleFilter left = .ok l)
    (hl' : r.assembleFilter right = .ok l') : r.Compiles (.binary .or left right) (.or l l')
  | compare {op : Operator} {left right : Filter} {l l' : Condition}
    (hop : op.isComparison = true) (hl : r.assembleFilter left = .ok l)
    (hl' : r.assembleFilter right = .ok l') :
    r.Compiles (.binary op left right) (.compare op l l')
  | call {name : String} {args : List Filter} {f : Function} {cs : List Condition}
    (hget : r.get? name = some f) (hargs : r.assembleArguments args = .ok cs) :
    r.Compiles (.call name args) (.call name f cs)

lemma compiles_of_assembleFilter {f : Filter} (h : r.assembleFilter f = .ok c) :
    r.Compiles f c := by
  cases f with
  | literal value =>
    cases h
    exact .literal
  | query origin segments =>
    rw [assembleFilter] at h
    obtain ⟨b, hb, h⟩ := bind_eq_ok h
    obtain ⟨p, hp, h⟩ := bind_eq_ok h
    cases h
    exact .query hb hp
  | not operand =>
    rw [assembleFilter] at h
    obtain ⟨inner, hinner, h⟩ := bind_eq_ok h
    cases h
    exact .not hinner
  | binary op left right =>
    rw [assembleFilter] at h
    obtain ⟨l, hl, h⟩ := bind_eq_ok h
    obtain ⟨l', hl', h⟩ := bind_eq_ok h
    cases op with
    | and =>
      cases h
      exact .and hl hl'
    | or =>
      cases h
      exact .or hl hl'
    | _ =>
      cases h
      exact .compare rfl hl hl'
  | call name args =>
    rw [assembleFilter] at h
    split at h
    · cases h
    · rename_i hget
      obtain ⟨cs, hargs, h⟩ := bind_eq_ok h
      cases h
      exact .call hget hargs

/-- What stands directly below a condition was compiled from what occurs directly below the
expression that the condition was compiled from. -/
lemma operand_of_assembleFilter {f : Filter} {c d : Condition} (h : r.assembleFilter f = .ok c)
    (hd : d ∈ c.operands) : ∃ o ∈ f.operands, r.assembleFilter o.filter = .ok d := by
  have hpair : ∀ {op : Operator} {left right : Filter} {l l' : Condition}, d ∈ [l, l'] →
      r.assembleFilter left = .ok l → r.assembleFilter right = .ok l' →
      ∃ o ∈ (Filter.binary op left right).operands, r.assembleFilter o.filter = .ok d := by
    intro op left right l l' hd hl hl'
    obtain rfl | hd := List.mem_cons.1 hd
    · exact ⟨_, List.mem_cons_self, hl⟩
    · obtain rfl := List.mem_singleton.1 hd
      exact ⟨_, List.mem_cons_of_mem _ (List.mem_singleton_self _), hl'⟩
  cases compiles_of_assembleFilter h with
  | literal => cases hd
  | query hb hp => exact condition_of_program hb hp hd
  | not hinner =>
    obtain rfl := List.mem_singleton.1 hd
    exact ⟨_, List.mem_singleton_self _, hinner⟩
  | and hl hl' => exact hpair hd hl hl'
  | or hl hl' => exact hpair hd hl hl'
  | compare _ hl hl' => exact hpair hd hl hl'
  | call _ hargs =>
    obtain ⟨arg, harg, hargd⟩ := exists_of_assembleArguments hargs hd
    exact ⟨_, List.mem_map_of_mem harg, hargd⟩

end Registry

/-- **What a program evaluates occurs in its query.** -/
theorem Program.Holds.exists_occurs {r : Registry} {q : Query} {p : Program}
    (hp : r.assemble q = .ok p) {c : Condition} (hc : p.Holds c) :
    ∃ o, q.Occurs o ∧ r.assembleFilter o.filter = .ok c := by
  induction hc with
  | condition hc =>
    rw [Registry.assemble] at hp
    obtain ⟨b, hb, hp⟩ := bind_eq_ok hp
    obtain ⟨p', hp', hp⟩ := bind_eq_ok hp
    cases hp
    obtain ⟨o, ho, hoc⟩ := Registry.condition_of_program hb hp' hc
    exact ⟨o, .condition ho, hoc⟩
  | operand _ hd ih =>
    obtain ⟨o, ho, hoc⟩ := ih
    obtain ⟨o', ho', hod⟩ := Registry.operand_of_assembleFilter hoc hd
    exact ⟨o', ho.operand ho', hod⟩

end JsonQuery
