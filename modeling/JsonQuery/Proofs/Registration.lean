import JsonQuery.Program.OfText
import JsonQuery.Proofs.Compilation
import JsonQuery.Proofs.RoundTrip

/-!
Registering functions. A registration that fails leaves the registry as it was. One that
succeeds adds a name at the end and touches no other, so a query notices it only if it calls the
new name: every other query is read, checked, compiled and run as before, and fails as before.
-/

namespace JsonQuery

/-! ### Registries that are kept -/

/-- What changes a registry that is kept. What has been changed when an error is raised stays
changed. -/
abbrev Registering := ExceptT RegistrationError (StateM Registry)

namespace Registering

def checkName (name : String) : Registering Unit :=
  if isFunctionName name then pure () else throw (.badName name)

def insertNew (name : String) (f : Function) : Registering Unit := do
  if (← get).contains name then throw (.alreadyExists name)
  modify fun r => ⟨r.entries ++ [(name, f)]⟩

def register (name : String) (f : Function) : Registering Unit := do
  checkName name
  insertNew name f

def define (name : String) (d : Definition) : Registering Unit := do
  checkName name
  match d.function? with
  | some f => insertNew name f
  | none => throw (.noEvaluator name)

/-- The result of a change, and the registry after it. -/
def take (x : Registering Unit) (r : Registry) : Except RegistrationError Unit × Registry :=
  x.run.run r

/-- What a change comes to, said by the registry that it leads to if it does not fail. -/
def outcome (r : Registry) :
    Except RegistrationError Registry → Except RegistrationError Unit × Registry
  | .ok r' => (.ok (), r')
  | .error e => (.error e, r)

lemma outcome_eq_ok_iff {r r' : Registry} {x : Except RegistrationError Registry} :
    outcome r x = (.ok (), r') ↔ x = .ok r' := by
  cases x <;> simp [outcome]

lemma outcome_eq_error_iff {r r' : Registry} {x : Except RegistrationError Registry}
    {e : RegistrationError} : outcome r x = (.error e, r') ↔ x = .error e ∧ r' = r := by
  cases x <;> simp [outcome, eq_comm]

lemma take_insertNew (name : String) (f : Function) (r : Registry) :
    (insertNew name f).take r = outcome r (r.add name f) := by
  have hget : (insertNew name f).take r = take
      (if r.contains name then throw (.alreadyExists name)
        else modify fun r => ⟨r.entries ++ [(name, f)]⟩) r := rfl
  rw [hget, Registry.add]
  split_ifs <;> rfl

lemma take_register (name : String) (f : Function) (r : Registry) :
    (register name f).take r = outcome r (r.register name f) := by
  rw [Registry.register]
  by_cases h : isFunctionName name
  · rw [if_pos h, ← take_insertNew, register, checkName, if_pos h]
    rfl
  · rw [if_neg h, register, checkName, if_neg h]
    rfl

lemma take_define (name : String) (d : Definition) (r : Registry) :
    (define name d).take r = outcome r (r.define name d) := by
  rw [Registry.define]
  by_cases h : isFunctionName name
  · rw [if_pos h, define, checkName, if_pos h]
    cases d.function? with
    | none => rfl
    | some f => exact take_insertNew name f r
  · rw [if_neg h, define, checkName, if_neg h]
    rfl

end Registering

lemma Registry.add_eq_ok_iff {r r' : Registry} {name : String} {f : Function} :
    r.add name f = .ok r' ↔ r.contains name = false ∧ r' = ⟨r.entries ++ [(name, f)]⟩ := by
  rw [add]
  split_ifs with h
  · simp [h]
  · simp [h, eq_comm]

/-- What is registered, and under which name. -/
inductive Registration where
  | function (name : String) (f : Function)
  | definition (name : String) (d : Definition)

namespace Registration

def name : Registration → String
  | .function name _ => name
  | .definition name _ => name

/-- The function that the name stands for from then on; a definition may fall short of one. -/
def function? : Registration → Option Function
  | .function _ f => some f
  | .definition _ d => d.function?

def perform : Registration → Registering Unit
  | .function name f => .register name f
  | .definition name d => .define name d

/-- The registry that a registration leads to. -/
def result (r : Registry) : Registration → Except RegistrationError Registry
  | .function name f => r.register name f
  | .definition name d => r.define name d

lemma take_perform (reg : Registration) (r : Registry) :
    reg.perform.take r = Registering.outcome r (reg.result r) := by
  cases reg with
  | function name f => exact Registering.take_register name f r
  | definition name d => exact Registering.take_define name d r

/-- When a registration succeeds, and what it leads to. -/
lemma result_eq_ok_iff {reg : Registration} {r r' : Registry} :
    reg.result r = .ok r' ↔ isFunctionName reg.name = true ∧ r.contains reg.name = false ∧
      ∃ f, reg.function? = some f ∧ r' = ⟨r.entries ++ [(reg.name, f)]⟩ := by
  cases reg with
  | function name f =>
    rw [result, Registry.register, Registration.name]
    split_ifs with h
    · simp [h, function?, Registry.add_eq_ok_iff]
    · simp [h]
  | definition name d =>
    rw [result, Registry.define, Registration.name, function?]
    split_ifs with h
    · cases d.function? with
      | none => simp
      | some f => simp [h, Registry.add_eq_ok_iff]
    · simp [h]

end Registration

/-! ### Registries with one name more -/

/-- A registry that has a name which the other lacks, and agrees with it on all others. -/
structure Registry.Extends (r r' : Registry) (name : String) : Prop where
  fresh : r.get? name = none
  agrees : ∀ other, other ≠ name → r'.get? other = r.get? other

section Extends

variable {r r' : Registry} {name : String}

lemma Registry.extends_append (h : r.contains name = false) (f : Function) :
    r.Extends ⟨r.entries ++ [(name, f)]⟩ name := by
  refine ⟨by simpa [contains] using h, fun other hother => ?_⟩
  have hne : (other == name) = false := by simpa using hother
  simp [get?, List.lookup_append, List.lookup_cons, hne]

/-- A known function stays what it is. -/
lemma Registry.Extends.get?_of_some (h : r.Extends r' name) {other : String} {f : Function}
    (hf : r.get? other = some f) : r'.get? other = some f := by
  rw [h.agrees other, hf]
  rintro rfl
  cases h.fresh.symm.trans hf

/-! #### Checking -/

lemma Registry.Extends.obeys (h : r.Extends r' name) {o : Occurrence} (ho : o.Obeys r) :
    o.Obeys r' := by
  obtain ⟨f, usage⟩ := o
  cases f with
  | call called args =>
    obtain ⟨f, hf, hcheck⟩ := ho
    exact ⟨f, h.get?_of_some hf, hcheck⟩
  | _ => exact ho

lemma Registry.Extends.breaks (h : r.Extends r' name) {o : Occurrence} {e : UsageError}
    (ho : o.Breaks r e) (he : e ≠ .unknownFunction name) : o.Breaks r' e := by
  cases ho with
  | literal => exact .literal
  | query hsingular => exact .query hsingular
  | @unknown called _ _ hcalled =>
    have hother : called ≠ name := fun heq => he (heq ▸ rfl)
    exact .unknown ((h.agrees called hother).trans hcalled)
  | refused hf hcheck => exact .refused (h.get?_of_some hf) hcheck

/-- The first rule that is broken stays the first one. -/
lemma Registry.Extends.checkUsage_eq (h : r.Extends r' name) (q : Query)
    (hq : r.checkUsage q ≠ .error (.unknownFunction name)) :
    r'.checkUsage q = r.checkUsage q := by
  cases hcheck : r.checkUsage q with
  | ok u =>
    rw [checkUsage_eq_ok_iff] at hcheck ⊢
    exact fun o ho => h.obeys (hcheck o ho)
  | error e =>
    have he : e ≠ .unknownFunction name := fun heq => hq (by rw [hcheck, heq])
    rw [checkUsage_eq_error_iff] at hcheck ⊢
    obtain ⟨before, o, after, hoccurrences, hbefore, ho⟩ := hcheck
    exact ⟨before, o, after, hoccurrences, fun p hp => h.obeys (hbefore p hp), h.breaks ho he⟩

end Extends

/-! ### Compiling -/

namespace Registry

variable {r r' : Registry}

lemma assembleSelectors_congr {selectors : List Selector}
    (h : ∀ f, .filter f ∈ selectors → r.assembleFilter f = r'.assembleFilter f) (b : Builder) :
    r.assembleSelectors b selectors = r'.assembleSelectors b selectors := by
  induction selectors generalizing b with
  | nil => rfl
  | cons s ss ih =>
    have hs : r.assembleSelector b s = r'.assembleSelector b s := by
      cases s with
      | filter f => rw [assembleSelector, assembleSelector, h f (by simp)]
      | _ => rfl
    rw [assembleSelectors, assembleSelectors, hs]
    exact congrArg _ (funext fun b => ih (fun f hf => h f (by simp [hf])) b)

lemma assembleSegments_congr {segments : List Segment}
    (h : ∀ o ∈ Query.conditions segments, r.assembleFilter o.filter = r'.assembleFilter o.filter)
    (b : Builder) : r.assembleSegments b segments = r'.assembleSegments b segments := by
  induction segments generalizing b with
  | nil => rfl
  | cons s ss ih =>
    obtain ⟨descendant, selectors⟩ := s
    have hselectors : ∀ f, .filter f ∈ selectors → r.assembleFilter f = r'.assembleFilter f :=
      fun f hf => h ⟨f, .logical⟩
        (Occurrence.mem_conditions.2 ⟨⟨descendant, selectors⟩, List.mem_cons_self, f, hf, rfl⟩)
    have hrest : ∀ o ∈ Query.conditions ss,
        r.assembleFilter o.filter = r'.assembleFilter o.filter := fun o ho =>
      h o (by rw [Occurrence.conditions_cons]; exact List.mem_append_right _ ho)
    rw [assembleSegments, assembleSegments, assembleSelectors_congr hselectors]
    refine congrArg _ (funext fun b => congrArg _ (funext fun b => ih hrest b))

lemma assembleArguments_congr {args : List Filter}
    (h : ∀ arg ∈ args, r.assembleFilter arg = r'.assembleFilter arg) :
    r.assembleArguments args = r'.assembleArguments args := by
  induction args with
  | nil => rfl
  | cons arg args ih =>
    obtain ⟨harg, hargs⟩ := List.forall_mem_cons.1 h
    rw [assembleArguments, assembleArguments, harg, ih hargs]

/-- What a filter is compiled to depends on the functions that are called in it, and on no
others. -/
lemma assembleFilter_congr {q : Query} (hcalls : ∀ name, q.Calls name → r.get? name = r'.get? name)
    {o : Occurrence} (ho : q.Occurs o) :
    r.assembleFilter o.filter = r'.assembleFilter o.filter := by
  induction ho using Query.Occurs.induction with
  | step o ho ih =>
    obtain ⟨f, usage⟩ := o
    cases f with
    | literal value => rfl
    | query origin segments =>
      rw [assembleFilter, assembleFilter, assembleSegments_congr ih]
    | not operand =>
      have hoperand := ih ⟨operand, .logical⟩ (by simp [Filter.operands])
      rw [assembleFilter, assembleFilter, hoperand]
    | binary op left right =>
      have hleft := ih ⟨left, op.operandUsage⟩ (by simp [Filter.operands])
      have hright := ih ⟨right, op.operandUsage⟩ (by simp [Filter.operands])
      rw [assembleFilter, assembleFilter, hleft, hright]
    | call name args =>
      have hargs : r.assembleArguments args = r'.assembleArguments args :=
        assembleArguments_congr fun arg harg => ih ⟨arg, .argument⟩ (List.mem_map_of_mem harg)
      rw [assembleFilter, assembleFilter, hcalls name ⟨args, usage, ho⟩, hargs]

lemma assemble_congr {q : Query} (hcalls : ∀ name, q.Calls name → r.get? name = r'.get? name) :
    r.assemble q = r'.assemble q := by
  rw [assemble, assemble, assembleSegments_congr fun o ho =>
    assembleFilter_congr hcalls (.condition ho)]

/-- In a query that passes its check, only known functions are called, and they are the same
with one name more. -/
lemma Extends.compile_eq {name : String} (h : r.Extends r' name) (q : Query)
    (hq : r.compile q ≠ .error (.usage (.unknownFunction name))) :
    r'.compile q = r.compile q := by
  have hcheck : r.checkUsage q ≠ .error (.unknownFunction name) := by
    intro heq
    exact hq (by rw [compile, heq]; rfl)
  rw [compile, compile, h.checkUsage_eq q hcheck]
  cases hok : r.checkUsage q with
  | error e => rfl
  | ok u =>
    have hcalls : ∀ called, q.Calls called → r'.get? called = r.get? called := by
      intro called hcalled
      obtain ⟨f, hf⟩ := Option.isSome_iff_exists.1 (contains_of_checkUsage hok hcalled)
      rw [h.get?_of_some hf, hf]
    exact congrArg _ (funext fun _ => assemble_congr hcalls)

lemma prepare_of_parse {text : String} {q : Query} (h : Query.parse text = .ok q)
    (r : Registry) :
    r.prepare text = ((r.compile q).mapError (.compile text)).map (·.setSource text) := by
  have hread : r.prepare text = (r.compile q).mapError (.compile text) >>= fun p =>
      pure (p.setSource text) := by
    rw [prepare, h]
    rfl
  rw [hread]
  cases r.compile q <;> rfl

lemma Extends.query_eq {name : String} (h : r.Extends r' name) (text : String) (document : Json)
    (hq : r.query text document ≠ .error (.compile text (.usage (.unknownFunction name)))) :
    r'.query text document = r.query text document := by
  -- Texts are read without a registry, so only what is read can make a difference.
  have hprepare : r'.prepare text = r.prepare text := by
    cases hparse : Query.parse text with
    | error e => rw [prepare, prepare, hparse]; rfl
    | ok q =>
      have hcompile : r.compile q ≠ .error (.usage (.unknownFunction name)) := by
        intro heq
        exact hq (by rw [query, prepare_of_parse hparse, heq]; rfl)
      rw [prepare_of_parse hparse, prepare_of_parse hparse, h.compile_eq q hcompile]
  rw [query, query, hprepare]

/-- **Registering is conservative.** A registration that fails leaves the registry as it was. It
succeeds exactly if the name can be called, is not taken, and something is there to evaluate; then
it puts its function after all others. That changes the answer of no query but those that fail
because they call that very name: what was selected is still selected, and every other error
stays the same error. -/
theorem query_of_registration (r r' : Registry) (reg : Registration) :
    (∀ e, reg.perform.take r = (.error e, r') → r' = r) ∧
      (reg.perform.take r = (.ok (), r') ↔
        isFunctionName reg.name = true ∧ r.contains reg.name = false ∧
          ∃ f, reg.function? = some f ∧ r' = ⟨r.entries ++ [(reg.name, f)]⟩) ∧
      (reg.perform.take r = (.ok (), r') → ∀ text document,
        (∀ nodes, r.query text document = .ok nodes → r'.query text document = .ok nodes) ∧
          ∀ e, r.query text document = .error e →
            e ≠ .compile text (.usage (.unknownFunction reg.name)) →
              r'.query text document = .error e) := by
  simp only [Registration.take_perform, Registering.outcome_eq_ok_iff,
    Registering.outcome_eq_error_iff]
  refine ⟨fun e h => h.2, Registration.result_eq_ok_iff, fun h text document => ?_⟩
  obtain ⟨-, hnew, f, -, rfl⟩ := Registration.result_eq_ok_iff.1 h
  have hextends := r.extends_append hnew f
  refine ⟨fun nodes hnodes => ?_, fun e he hne => ?_⟩
  · rw [hextends.query_eq text document (by simp [hnodes]), hnodes]
  · have hother : r.query text document ≠
        .error (.compile text (.usage (.unknownFunction reg.name))) := by
      rw [he]
      exact fun heq => hne (Except.error.inj heq)
    rw [hextends.query_eq text document hother, he]

end Registry

/-- A definition of a function that is true of whatever it is called with. -/
def Registration.sample : Registration :=
  .definition "one" { evaluate := some fun _ => .bool true }

/-- The registry that has only that function. -/
def Registry.ofSample : Registry :=
  ⟨[("one", { check := fun _ _ _ => .ok (), evaluate := fun _ => .bool true })]⟩

/-- A query that calls another function. -/
def Query.calling : Query := [⟨false, [.filter (.call "two" [])]⟩]

/-- A call of another unknown function fails as before. -/
theorem Registry.sample_query_of_registration :
    Registration.sample.perform.take empty = (.ok (), ofSample) ∧
      empty.query "$[?two()]" (.array []) =
        .error (.compile "$[?two()]" (.usage (.unknownFunction "two"))) ∧
      ofSample.query "$[?two()]" (.array []) =
        .error (.compile "$[?two()]" (.usage (.unknownFunction "two"))) := by
  have htake : Registration.sample.perform.take empty = (.ok (), ofSample) := rfl
  have hwell : Query.calling.WellFormed :=
    ⟨⟨List.cons_ne_nil _ _, ⟨by decide, trivial⟩, trivial⟩, trivial⟩
  have htext : Query.calling.text = "$[?two()]" := rfl
  have hparse := Query.parse_text_of_wellFormed hwell
  rw [htext] at hparse
  have hfails : empty.query "$[?two()]" (.array []) =
      .error (.compile "$[?two()]" (.usage (.unknownFunction "two"))) := by
    rw [query, prepare_of_parse hparse]
    rfl
  obtain ⟨-, hquery⟩ := (query_of_registration empty ofSample Registration.sample).2
  obtain ⟨-, hfailsStill⟩ := hquery htake "$[?two()]" (.array [])
  have hother : QueryError.compile "$[?two()]" (.usage (.unknownFunction "two")) ≠
      .compile "$[?two()]" (.usage (.unknownFunction Registration.sample.name)) := by
    simp [Registration.sample, Registration.name]
  exact ⟨htake, hfails, hfailsStill _ hfails hother⟩

end JsonQuery
