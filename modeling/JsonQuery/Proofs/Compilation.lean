import JsonQuery.Proofs.Assembled

/-!
Which queries are compiled. A query fails for one of two reasons: some call in its filters
names no function, or some query, itself or one within its filters, demands more than a program
can hold. Without such a reason it is compiled, and all that is compiled is well formed.
-/

namespace JsonQuery

/-- A function is called somewhere in the filters of a query. -/
def Query.Calls (q : Query) (name : String) : Prop :=
  ∃ args usage, q.Occurs ⟨.call name args, usage⟩

/-- A query, and the queries within its filters, at any depth. -/
inductive Query.Includes (q : Query) : Query → Prop
  | self : q.Includes q
  | within {origin : Origin} {path : Query} {usage : Usage}
    (h : q.Occurs ⟨.query origin path, usage⟩) : q.Includes path

namespace Occurrence

/-- An occurrence that does not by itself keep a query from being compiled. -/
def Compilable (r : Registry) : Occurrence → Prop
  | ⟨.query _ segments, _⟩ => ∀ quota, ¬ Query.Exceeds segments quota
  | ⟨.call name _, _⟩ => r.contains name = true
  | _ => True

/-- How an occurrence keeps a query from being compiled. -/
inductive Prevents (r : Registry) : Occurrence → CompileError → Prop
  | unknown {name : String} {args : List Filter} {usage : Usage} (h : r.contains name = false) :
    Prevents r ⟨.call name args, usage⟩ (.unknownFunction name)
  | tooLarge {origin : Origin} {segments : List Segment} {usage : Usage} {quota : Quota}
    (h : Query.Exceeds segments quota) :
    Prevents r ⟨.query origin segments, usage⟩ (.tooLarge quota)

lemma Prevents.not_compilable {r : Registry} {o : Occurrence} {e : CompileError}
    (h : o.Prevents r e) : ¬ o.Compilable r := by
  cases h with
  | unknown h => simp [Compilable, h]
  | @tooLarge _ _ _ quota h => exact fun hc => hc quota h

end Occurrence

/-! ### Results and their reasons -/

/-- A result that some occurrences account for: with a success all of them are compilable, and
a failure is due to one of them. -/
inductive Explained (r : Registry) (os : List Occurrence) {α : Type} :
    Except CompileError α → Prop
  | ok {a : α} (h : ∀ o ∈ os, o.Compilable r) : Explained r os (.ok a)
  | error {o : Occurrence} {e : CompileError} (ho : o ∈ os) (h : o.Prevents r e) :
    Explained r os (.error e)

namespace Explained

variable {r : Registry} {os os' : List Occurrence} {α β : Type} {x : Except CompileError α}
  {f : α → Except CompileError β}

lemma bind (hx : Explained r os x) (hf : ∀ a, x = .ok a → Explained r os' (f a)) :
    Explained r (os ++ os') (x >>= f) := by
  cases hx with
  | @ok a hos =>
    change Explained r (os ++ os') (f a)
    have hfa := hf a rfl
    generalize f a = y at hfa
    cases hfa with
    | ok hos' =>
      refine .ok fun o ho => ?_
      rcases List.mem_append.1 ho with ho | ho
      · exact hos o ho
      · exact hos' o ho
    | error ho h => exact .error (List.mem_append_right _ ho) h
  | error ho h => exact .error (List.mem_append_left _ ho) h

/-- What cannot fail needs no account. -/
lemma map (hx : Explained r os x) (hf : ∀ a, x = .ok a → ∃ b, f a = .ok b) :
    Explained r os (x >>= f) := by
  rw [← List.append_nil os]
  refine hx.bind fun a ha => ?_
  obtain ⟨b, hb⟩ := hf a ha
  rw [hb]
  exact .ok (by simp)

lemma cons_compilable {o : Occurrence} (ho : o.Compilable r) (hx : Explained r os x) :
    Explained r (o :: os) x := by
  cases hx with
  | ok hos => exact .ok (List.forall_mem_cons.2 ⟨ho, hos⟩)
  | error ho h => exact .error (List.mem_cons_of_mem _ ho) h

end Explained

/-! ### Filters -/

/-- What compiling a filter gives is explained by what occurs in it. -/
def Filter.IsExplained (r : Registry) (f : Filter) : Prop :=
  ∀ usage : Usage, Explained r (Occurrence.preorder ⟨f, usage⟩) (r.assembleFilter f)

namespace Registry

open Occurrence

variable {r : Registry}

lemma explained_assembleSegments {segments : List Segment}
    (hfilters : ∀ s ∈ segments, ∀ f, .filter f ∈ s.selectors → f.IsExplained r)
    (origin : Origin) (usage : Usage) :
    Explained r (preorder ⟨.query origin segments, usage⟩) (r.assembleSegments {} segments) := by
  rw [preorder_eq]
  have hbelow : ∀ s ∈ segments, ∀ f, .filter f ∈ s.selectors → ∀ o ∈ preorder ⟨f, .logical⟩,
      o ∈ (Query.conditions segments).flatMap preorder := by
    intro s hs f hf o ho
    exact List.mem_flatMap.2 ⟨_, mem_conditions.2 ⟨s, hs, f, hf, rfl⟩, ho⟩
  have hadded := added_assembleSegments (r := r) Builder.built_empty segments
  generalize r.assembleSegments {} segments = result at hadded
  cases hadded with
  | built hb hf =>
    refine .ok (List.forall_mem_cons.2 ⟨hb.not_exceeds, fun o ho => ?_⟩)
    obtain ⟨p, hp, ho⟩ := List.mem_flatMap.1 ho
    obtain ⟨s, hs, f, hmem, rfl⟩ := mem_conditions.1 hp
    obtain ⟨c, hc⟩ := hf s hs f hmem
    cases hc ▸ hfilters s hs f hmem .logical with
    | ok hos => exact hos o ho
  | tooLarge hmany => exact .error List.mem_cons_self (.tooLarge hmany)
  | failed hs hmem he =>
    cases he ▸ hfilters _ hs _ hmem .logical with
    | error ho h => exact .error (List.mem_cons_of_mem _ (hbelow _ hs _ hmem _ ho)) h

lemma explained_assembleArguments {args : List Filter}
    (hargs : ∀ arg ∈ args, Filter.IsExplained r arg) :
    Explained r ((args.map fun arg => (⟨arg, .argument⟩ : Occurrence)).flatMap preorder)
      (r.assembleArguments args) := by
  induction args with
  | nil => exact .ok (by simp)
  | cons arg args ih =>
    obtain ⟨harg, hargs⟩ := List.forall_mem_cons.1 hargs
    rw [assembleArguments, List.map_cons, List.flatMap_cons]
    exact (harg .argument).bind fun c _ => (ih hargs).map fun cs _ => ⟨c :: cs, rfl⟩

/-- **What comes of a filter** is accounted for by what occurs in it. -/
theorem isExplained (r : Registry) (f : Filter) : f.IsExplained r := by
  induction f using Filter.induction with
  | literal value =>
    intro usage
    rw [preorder_eq]
    exact .ok (by simp [Compilable, Filter.operands])
  | query origin segments ih =>
    intro usage
    rw [assembleFilter]
    refine (explained_assembleSegments ih origin usage).map fun b hb => ?_
    obtain ⟨p, hp, -⟩ := program_of_assembleSegments hb
    rw [hp]
    exact ⟨_, rfl⟩
  | not operand ih =>
    intro usage
    rw [preorder_eq, assembleFilter, Filter.operands, List.flatMap_singleton]
    exact .cons_compilable trivial ((ih .logical).map fun c _ => ⟨.not c, rfl⟩)
  | binary op left right ihl ihr =>
    intro usage
    rw [preorder_eq, assembleFilter, Filter.operands, List.flatMap_cons, List.flatMap_singleton]
    refine .cons_compilable trivial ((ihl op.operandUsage).bind fun l _ => ?_)
    refine (ihr op.operandUsage).map fun l' _ => ?_
    cases op <;> exact ⟨_, rfl⟩
  | call name args ih =>
    intro usage
    rw [preorder_eq, assembleFilter, Filter.operands]
    split
    · rename_i hget
      have hunknown : r.contains name = false := by rw [contains, hget]; rfl
      exact .error List.mem_cons_self (.unknown hunknown)
    · rename_i f hget
      have hknown : r.contains name = true := by rw [contains, hget]; rfl
      refine .cons_compilable hknown ?_
      exact (explained_assembleArguments ih).map fun cs _ => ⟨.call name f cs, rfl⟩

/-! ### Queries -/

lemma explained_assemble (r : Registry) (q : Query) :
    Explained r (⟨.query .root q, .logical⟩ :: q.occurrences) (r.assemble q) := by
  have hfilters : ∀ s ∈ q, ∀ f, .filter f ∈ s.selectors → f.IsExplained r :=
    fun _ _ f _ => isExplained r f
  have hsegments := explained_assembleSegments hfilters .root .logical
  rw [preorder_eq] at hsegments
  rw [assemble]
  refine hsegments.map fun b hb => ?_
  obtain ⟨p, hp, -⟩ := program_of_assembleSegments hb
  rw [hp]
  exact ⟨_, rfl⟩

/-- What occurs in a query, and the query itself, is compilable if and only if all calls are
known and no query demands too much. -/
lemma compilable_iff (r : Registry) (q : Query) :
    (∀ o ∈ (⟨.query .root q, .logical⟩ : Occurrence) :: q.occurrences, o.Compilable r) ↔
      (∀ name, q.Calls name → r.contains name = true) ∧
        ∀ path, q.Includes path → ∀ quota, ¬ path.Exceeds quota := by
  constructor
  · intro h
    obtain ⟨hq, h⟩ := List.forall_mem_cons.1 h
    refine ⟨?_, ?_⟩
    · rintro name ⟨args, usage, hcall⟩
      exact h _ (mem_occurrences.2 hcall)
    · rintro path (_ | hpath)
      · exact hq
      · exact h _ (mem_occurrences.2 hpath)
  · rintro ⟨hcalls, hpaths⟩
    refine List.forall_mem_cons.2 ⟨hpaths q .self, ?_⟩
    intro o ho
    have ho := mem_occurrences.1 ho
    obtain ⟨f, usage⟩ := o
    cases f with
    | query origin segments => exact hpaths segments (.within ho)
    | call name args => exact hcalls name ⟨args, usage, ho⟩
    | literal value => trivial
    | not operand => trivial
    | binary op left right => trivial

/-- A query is compiled if and only if nothing in it prevents that. -/
lemma exists_assemble_eq_ok_iff (r : Registry) (q : Query) :
    (∃ p, r.assemble q = .ok p) ↔
      (∀ name, q.Calls name → r.contains name = true) ∧
        ∀ path, q.Includes path → ∀ quota, ¬ path.Exceeds quota := by
  rw [← compilable_iff]
  have hexplained := explained_assemble r q
  generalize r.assemble q = result at hexplained
  cases hexplained with
  | @ok p h => exact iff_of_true ⟨p, rfl⟩ h
  | error ho h =>
    refine iff_of_false ?_ fun hos => h.not_compilable (hos _ ho)
    rintro ⟨p, hp⟩
    cases hp

/-- A query with segments left out is compiled if the whole is. -/
lemma exists_assemble_of_sublist {q q' : Query} (hq : q.Sublist q')
    (h : ∃ p, r.assemble q' = .ok p) : ∃ p, r.assemble q = .ok p := by
  rw [exists_assemble_eq_ok_iff] at h ⊢
  obtain ⟨hcalls, hpaths⟩ := h
  have hoccurs : ∀ o, q.Occurs o → q'.Occurs o := by
    intro o ho
    induction ho with
    | condition ho =>
      obtain ⟨s, hs, f, hf, rfl⟩ := mem_conditions.1 ho
      exact .condition (mem_conditions.2 ⟨s, hq.subset hs, f, hf, rfl⟩)
    | operand _ ho ih => exact ih.operand ho
  refine ⟨?_, ?_⟩
  · rintro name ⟨args, usage, hcall⟩
    exact hcalls name ⟨args, usage, hoccurs _ hcall⟩
  · rintro path (_ | hpath) quota hexceeds
    · exact hpaths q' .self quota (hexceeds.of_sublist hq)
    · exact hpaths path (.within (hoccurs _ hpath)) quota hexceeds

/-- The two reasons for which a query is not compiled. -/
lemma reason_of_assemble_eq_error {q : Query} {e : CompileError} (h : r.assemble q = .error e) :
    (∃ name, e = .unknownFunction name ∧ q.Calls name ∧ r.contains name = false) ∨
      ∃ quota path, e = .tooLarge quota ∧ q.Includes path ∧ path.Exceeds quota := by
  cases h ▸ explained_assemble r q with
  | error ho h =>
    rw [List.mem_cons, mem_occurrences] at ho
    cases h with
    | unknown hname =>
      obtain heq | ho := ho
      · cases heq
      · exact .inl ⟨_, rfl, ⟨_, _, ho⟩, hname⟩
    | tooLarge hmany =>
      obtain heq | ho := ho
      · cases heq
        exact .inr ⟨_, q, rfl, .self, hmany⟩
      · exact .inr ⟨_, _, rfl, .within ho, hmany⟩

/-- Every program of a compiled query is well formed. -/
lemma wellFormed_of_assemble {q : Query} {p : Program} (h : r.assemble q = .ok p) :
    ∀ p' ∈ p.programs, p'.WellFormed := by
  obtain ⟨b, p', hb, hp', rfl⟩ := exists_of_assemble h
  exact wellFormed_of_assembleSegments (fun _ _ f _ => f.yieldsWellFormed r) hb hp' _

/-- In a query that obeys the rules of usage, every call is one of a known function. -/
lemma contains_of_checkUsage {q : Query} (h : r.checkUsage q = .ok ()) {name : String}
    (hname : q.Calls name) : r.contains name = true := by
  obtain ⟨args, usage, hcall⟩ := hname
  obtain ⟨f, hf, -⟩ := (checkUsage_eq_ok_iff r q).1 h _ hcall
  rw [contains, hf]
  rfl

/-- **Which queries are compiled.** A query that is not checked is compiled if and only if
every function called in its filters, at any depth, is registered, and it needs, as does each
query within its filters by itself, no more than 65536 constants and 2³² instructions. If it is
not, the error says which of these is the reason. What is compiled passes verification, with
opcodes that describe their slices, in the program and in all programs within its filters. So a
query that passes its check can only be too large. -/
theorem assemble_characterized (r : Registry) (q : Query) :
    ((∃ p, r.assemble q = .ok p) ↔
      (∀ name, q.Calls name → r.contains name = true) ∧
        ∀ path, q.Includes path →
          path.constantsNeeded ≤ 65536 ∧ path.instructionsNeeded ≤ 2 ^ 32) ∧
    (∀ e, r.assemble q = .error e →
      (∃ name, e = .unknownFunction name ∧ q.Calls name ∧ r.contains name = false) ∨
        ∃ quota path, e = .tooLarge quota ∧ q.Includes path ∧ path.Exceeds quota) ∧
    (∀ p, r.assemble q = .ok p → ∀ p' ∈ p.programs, p'.WellFormed) ∧
    (r.checkUsage q = .ok () → ∀ e, r.compile q = .error e → ∃ quota, e = .tooLarge quota) := by
  refine ⟨?_, fun e he => reason_of_assemble_eq_error he, fun p hp => wellFormed_of_assemble hp, ?_⟩
  · have hexceeds : ∀ path : Query, (∀ quota, ¬ path.Exceeds quota) ↔
        path.constantsNeeded ≤ 65536 ∧ path.instructionsNeeded ≤ 2 ^ 32 := by
      intro path
      refine ⟨fun h => ⟨Nat.not_lt.1 (h .constants), Nat.not_lt.1 (h .instructions)⟩, ?_⟩
      rintro ⟨hconstants, hinstructions⟩ quota
      cases quota with
      | constants => exact Nat.not_lt.2 hconstants
      | instructions => exact Nat.not_lt.2 hinstructions
    simp only [exists_assemble_eq_ok_iff, hexceeds]
  · intro hcheck e he
    rw [compile, hcheck] at he
    rcases reason_of_assemble_eq_error he with ⟨name, -, hcall, hname⟩ | ⟨quota, _, rfl, -, -⟩
    · rw [contains_of_checkUsage hcheck hcall] at hname
      cases hname
    · exact ⟨quota, rfl⟩

end Registry
end JsonQuery
