import JsonQuery.Function.Usage
import Mathlib.Tactic.Lemma
import Mathlib.Tactic.SplitIfs

/-!
Occurrences of expressions in the filters of a query. The rules of usage speak of one
occurrence at a time: of the expression, and of what stands directly above it. Checking a query
goes through its occurrences in the order of the text and reports the first one that breaks its
rule.
-/

namespace JsonQuery

/-- Whether what stands so is itself an operand of a comparison. -/
def Usage.isCompared : Usage → Bool
  | .comparisonOperand => true
  | _ => false

/-- How the operands of an operator stand. -/
def Operator.operandUsage (op : Operator) : Usage :=
  if op.isComparison then .comparisonOperand else .logical

/-- An expression, and how it stands in what is directly above it. -/
structure Occurrence where
  filter : Filter
  usage : Usage

/-- The condition of a filter selector. -/
def Selector.condition? : Selector → Option Occurrence
  | .filter condition => some ⟨condition, .logical⟩
  | _ => none

/-- The conditions of the filter selectors of a query, those within them left out. -/
def Query.conditions (q : Query) : List Occurrence :=
  q.flatMap fun s => s.selectors.filterMap Selector.condition?

/-- What occurs directly below an expression, in the order of the text. -/
def Filter.operands : Filter → List Occurrence
  | .literal _ => []
  | .query _ segments => Query.conditions segments
  | .not operand => [⟨operand, .logical⟩]
  | .binary op left right => [⟨left, op.operandUsage⟩, ⟨right, op.operandUsage⟩]
  | .call _ args => args.map (⟨·, .argument⟩)

/-- What occurs in the filters of a query, at any depth. -/
inductive Query.Occurs (q : Query) : Occurrence → Prop
  | condition {o : Occurrence} (h : o ∈ q.conditions) : q.Occurs o
  | operand {o o' : Occurrence} (h : q.Occurs o) (h' : o' ∈ o.filter.operands) : q.Occurs o'

namespace Occurrence

/-! ### The order of the text -/

lemma mem_conditions {q : Query} {o : Occurrence} :
    o ∈ q.conditions ↔ ∃ s ∈ q, ∃ f, Selector.filter f ∈ s.selectors ∧ o = ⟨f, .logical⟩ := by
  simp only [Query.conditions, List.mem_flatMap, List.mem_filterMap]
  constructor
  · rintro ⟨s, hs, selector, hselector, h⟩
    cases selector <;> cases h
    exact ⟨s, hs, _, hselector, rfl⟩
  · rintro ⟨s, hs, f, hf, rfl⟩
    exact ⟨s, hs, .filter f, hf, rfl⟩

lemma conditions_cons (s : Segment) (q : Query) :
    Query.conditions (s :: q) = s.selectors.filterMap Selector.condition? ++ q.conditions := rfl

lemma sizeOf_lt_of_mem_conditions {q : Query} {o : Occurrence} (h : o ∈ q.conditions) :
    sizeOf o.filter < sizeOf q := by
  obtain ⟨⟨d, selectors⟩, hs, f, hf, rfl⟩ := mem_conditions.1 h
  have hs' := List.sizeOf_lt_of_mem hs
  have hf' := List.sizeOf_lt_of_mem hf
  simp only [Segment.mk.sizeOf_spec, Selector.filter.sizeOf_spec] at *
  omega

lemma sizeOf_lt_of_mem_operands {f : Filter} {o : Occurrence} (h : o ∈ f.operands) :
    sizeOf o.filter < sizeOf f := by
  cases f with
  | literal value => cases h
  | query origin segments =>
    have := sizeOf_lt_of_mem_conditions h
    simp only [Filter.query.sizeOf_spec]
    omega
  | not operand =>
    obtain rfl := List.mem_singleton.1 h
    simp only [Filter.not.sizeOf_spec]
    omega
  | binary op left right =>
    simp only [Filter.operands, List.mem_cons, List.not_mem_nil, or_false] at h
    rcases h with rfl | rfl <;> simp only [Filter.binary.sizeOf_spec] <;> omega
  | call name args =>
    obtain ⟨arg, harg, rfl⟩ := List.mem_map.1 h
    have := List.sizeOf_lt_of_mem harg
    simp only [Filter.call.sizeOf_spec]
    omega

/-- An occurrence, and after it what occurs below it. -/
def preorder (o : Occurrence) : List Occurrence :=
  o :: o.filter.operands.attach.flatMap fun o' => preorder o'.1
termination_by sizeOf o.filter
decreasing_by exact sizeOf_lt_of_mem_operands o'.2

lemma preorder_eq (o : Occurrence) : o.preorder = o :: o.filter.operands.flatMap preorder := by
  rw [preorder, List.flatMap_subtype (g := preorder) (fun _ _ => rfl), List.unattach_attach]

end Occurrence

/-- Induction on what occurs in a query: on each occurrence after those directly below it. -/
theorem Query.Occurs.induction {q : Query} {motive : ∀ o, q.Occurs o → Prop}
    (step : ∀ o (h : q.Occurs o),
      (∀ o' (h' : o' ∈ o.filter.operands), motive o' (h.operand h')) → motive o h)
    {o : Occurrence} (h : q.Occurs o) : motive o h :=
  step o h fun _ h' => Query.Occurs.induction step (h.operand h')
termination_by sizeOf o.filter
decreasing_by exact Occurrence.sizeOf_lt_of_mem_operands h'

/-- What occurs in the filters of a query, in the order of the text. -/
def Query.occurrences (q : Query) : List Occurrence := q.conditions.flatMap Occurrence.preorder

namespace Occurrence

lemma occurs_of_mem_preorder {q : Query} {o : Occurrence} (h : q.Occurs o) :
    ∀ o' ∈ o.preorder, q.Occurs o' := by
  intro o' ho'
  rw [preorder_eq, List.mem_cons, List.mem_flatMap] at ho'
  obtain rfl | ⟨p, hp, ho'⟩ := ho'
  · exact h
  · exact occurs_of_mem_preorder (h.operand hp) o' ho'
termination_by sizeOf o.filter
decreasing_by exact sizeOf_lt_of_mem_operands hp

lemma mem_preorder_of_mem_operands {o p p' : Occurrence} (h : p ∈ o.preorder)
    (hp' : p' ∈ p.filter.operands) : p' ∈ o.preorder := by
  rw [preorder_eq, List.mem_cons, List.mem_flatMap] at h ⊢
  obtain rfl | ⟨o', ho', h⟩ := h
  · exact .inr ⟨p', hp', by simp [preorder_eq p']⟩
  · exact .inr ⟨o', ho', mem_preorder_of_mem_operands h hp'⟩
termination_by sizeOf o.filter
decreasing_by exact sizeOf_lt_of_mem_operands ho'

/-- The list holds all that occurs, and nothing else. -/
theorem mem_occurrences {q : Query} {o : Occurrence} : o ∈ q.occurrences ↔ q.Occurs o := by
  rw [Query.occurrences, List.mem_flatMap]
  constructor
  · rintro ⟨p, hp, ho⟩
    exact occurs_of_mem_preorder (.condition hp) o ho
  · intro h
    induction h with
    | @condition o h => exact ⟨o, h, by simp [preorder_eq o]⟩
    | operand _ h' ih =>
      obtain ⟨p, hp, ho⟩ := ih
      exact ⟨p, hp, mem_preorder_of_mem_operands ho h'⟩

/-! ### The rules -/

/-- The rule of an occurrence: a literal is compared or an argument; a query that is compared is
singular; and a call is one of a known function, which accepts it. -/
def Obeys (r : Registry) : Occurrence → Prop
  | ⟨.literal _, usage⟩ => usage = .comparisonOperand ∨ usage = .argument
  | ⟨.query _ segments, usage⟩ => usage = .comparisonOperand → Query.isSingular segments = true
  | ⟨.call name args, usage⟩ =>
    ∃ f, r.get? name = some f ∧ f.check args usage usage.isCompared = .ok ()
  | ⟨.not _, _⟩ => True
  | ⟨.binary _ _ _, _⟩ => True

/-- How an occurrence breaks its rule. -/
inductive Breaks (r : Registry) : Occurrence → UsageError → Prop
  | literal {value : Literal} : Breaks r ⟨.literal value, .logical⟩ .literalMustBeCompared
  | query {origin : Origin} {segments : List Segment} (h : Query.isSingular segments = false) :
    Breaks r ⟨.query origin segments, .comparisonOperand⟩ .comparisonRequiresSingularQuery
  | unknown {name : String} {args : List Filter} {usage : Usage} (h : r.get? name = none) :
    Breaks r ⟨.call name args, usage⟩ (.unknownFunction name)
  | refused {name : String} {args : List Filter} {usage : Usage} {f : Function} {e : UsageError}
    (h : r.get? name = some f) (he : f.check args usage usage.isCompared = .error e) :
    Breaks r ⟨.call name args, usage⟩ e

/-- The check of one occurrence, without what is below it. -/
def judge (r : Registry) : Occurrence → Except UsageError Unit
  | ⟨.literal _, usage⟩ => if usage = .logical then .error .literalMustBeCompared else .ok ()
  | ⟨.query _ segments, usage⟩ =>
    if usage.isCompared && !Query.isSingular segments then
      .error .comparisonRequiresSingularQuery
    else .ok ()
  | ⟨.call name args, usage⟩ =>
    match r.get? name with
    | none => .error (.unknownFunction name)
    | some f => f.check args usage usage.isCompared
  | ⟨.not _, _⟩ => .ok ()
  | ⟨.binary _ _ _, _⟩ => .ok ()

lemma judge_eq_ok_iff (r : Registry) (o : Occurrence) : o.judge r = .ok () ↔ o.Obeys r := by
  obtain ⟨f, usage⟩ := o
  cases f with
  | literal value => cases usage <;> simp [judge, Obeys]
  | query origin segments =>
    cases usage <;> simp [judge, Obeys, Usage.isCompared]
  | not operand => simp [judge, Obeys]
  | binary op left right => simp [judge, Obeys]
  | call name args =>
    rw [judge, Obeys]
    cases r.get? name with
    | none => simp
    | some f => simp

lemma judge_eq_error_iff (r : Registry) (o : Occurrence) (e : UsageError) :
    o.judge r = .error e ↔ o.Breaks r e := by
  constructor
  · obtain ⟨f, usage⟩ := o
    intro h
    cases f with
    | literal value =>
      rw [judge] at h
      split_ifs at h with husage
      cases h
      exact husage ▸ .literal
    | query origin segments =>
      rw [judge] at h
      split_ifs at h with hquery
      cases h
      obtain ⟨hcompared, hsingular⟩ := Bool.and_eq_true_iff.1 hquery
      cases usage <;> cases hcompared
      exact .query (by simpa using hsingular)
    | not operand => cases h
    | binary op left right => cases h
    | call name args =>
      rw [judge] at h
      split at h
      · rename_i hname
        cases h
        exact .unknown hname
      · rename_i f hname
        exact .refused hname h
  · rintro (_ | h | h | ⟨h, he⟩)
    · rfl
    · simp [judge, Usage.isCompared, h]
    · simp [judge, h]
    · simp [judge, h, he]

end Occurrence

/-! ### Checking -/

section Except

variable {ε α : Type} {check : α → Except ε Unit} {l : List α}

lemma forM_eq_ok_iff : forM l check = .ok () ↔ ∀ a ∈ l, check a = .ok () := by
  induction l with
  | nil => simp [pure, Except.pure]
  | cons a l ih =>
    rw [List.forM_cons, List.forall_mem_cons, ← ih]
    cases check a with
    | error e => simp [bind, Except.bind]
    | ok u => simp [bind, Except.bind]

/-- Checks in a row fail with the first one that does. -/
lemma forM_eq_error_iff {e : ε} : forM l check = .error e ↔
    ∃ before a after, l = before ++ a :: after ∧ (∀ b ∈ before, check b = .ok ()) ∧
      check a = .error e := by
  induction l with
  | nil => simp [pure, Except.pure]
  | cons a l ih =>
    rw [List.forM_cons]
    cases ha : check a with
    | error e' =>
      constructor
      · rintro h
        cases h
        exact ⟨[], a, l, rfl, by simp, ha⟩
      · rintro ⟨_ | ⟨b, before⟩, a', after, hl, hbefore, ha'⟩
        · cases hl
          rw [← ha', ha]
          rfl
        · cases hl
          rw [hbefore a (by simp)] at ha
          cases ha
    | ok u =>
      refine ih.trans ⟨?_, ?_⟩
      · rintro ⟨before, a', after, rfl, hbefore, ha'⟩
        exact ⟨a :: before, a', after, rfl, by simpa [ha] using hbefore, ha'⟩
      · rintro ⟨_ | ⟨b, before⟩, a', after, hl, hbefore, ha'⟩
        · cases hl
          rw [ha] at ha'
          cases ha'
        · cases hl
          exact ⟨before, a', after, rfl, fun b hb => hbefore b (by simp [hb]), ha'⟩

end Except

/-! The checks of a list of lists are the checks of all their entries. -/

lemma forM_flatMap {ε α β : Type} (check : β → Except ε Unit) (f : α → List β) (l : List α) :
    forM (l.flatMap f) check = forM l fun a => forM (f a) check := by
  induction l with
  | nil => rfl
  | cons a l ih => rw [List.flatMap_cons, List.forM_append, List.forM_cons, ih]

namespace Registry

open Occurrence

variable {r : Registry}

/-- Checking an expression is checking all that occurs in it. -/
def ChecksOccurrences (r : Registry) (f : Filter) : Prop :=
  ∀ usage : Usage, r.checkFilter usage usage.isCompared f = forM (preorder ⟨f, usage⟩) (judge r)

lemma forM_preorder (o : Occurrence) : forM o.preorder (judge r) =
    o.judge r >>= fun _ => forM o.filter.operands fun p => forM p.preorder (judge r) := by
  rw [preorder_eq, List.forM_cons, forM_flatMap]

lemma checkSelectors_eq {selectors : List Selector}
    (h : ∀ f, .filter f ∈ selectors → r.ChecksOccurrences f) :
    r.checkSelectors selectors =
      forM (selectors.filterMap Selector.condition?) fun o => forM o.preorder (judge r) := by
  induction selectors with
  | nil => rfl
  | cons s ss ih =>
    rw [checkSelectors, ih fun f hf => h f (by simp [hf])]
    cases s with
    | filter f =>
      have hf : r.checkFilter .logical false f = _ := h f (by simp) .logical
      rw [checkSelector, hf, List.filterMap_cons, Selector.condition?, List.forM_cons]
    | _ => rfl

lemma checkSegments_eq {segments : List Segment}
    (h : ∀ s ∈ segments, ∀ f, .filter f ∈ s.selectors → r.ChecksOccurrences f) :
    r.checkSegments segments =
      forM (Query.conditions segments) fun o => forM o.preorder (judge r) := by
  induction segments with
  | nil => rfl
  | cons s ss ih =>
    obtain ⟨hs, hss⟩ := List.forall_mem_cons.1 h
    cases s
    rw [checkSegments, checkSelectors_eq hs, ih hss, conditions_cons, List.forM_append]

lemma checkArguments_eq {args : List Filter} (h : ∀ arg ∈ args, r.ChecksOccurrences arg) :
    r.checkArguments args =
      forM (args.map fun arg => (⟨arg, .argument⟩ : Occurrence)) fun o =>
        forM o.preorder (judge r) := by
  induction args with
  | nil => rfl
  | cons arg args ih =>
    obtain ⟨harg, hargs⟩ := List.forall_mem_cons.1 h
    have harg : r.checkFilter .argument false arg = _ := harg .argument
    rw [checkArguments, harg, ih hargs, List.map_cons, List.forM_cons]

lemma checksOccurrences (r : Registry) (f : Filter) : r.ChecksOccurrences f := by
  induction f using Filter.induction with
  | literal value =>
    intro usage
    rw [forM_preorder, checkFilter, judge, Filter.operands]
    split_ifs <;> rfl
  | query origin segments ih =>
    intro usage
    rw [forM_preorder, checkFilter, judge, Filter.operands, ← checkSegments_eq ih]
    split_ifs <;> rfl
  | not operand ih =>
    intro usage
    have hoperand : r.checkFilter .logical false operand = _ := ih .logical
    rw [forM_preorder, checkFilter, hoperand, judge, Filter.operands, List.forM_cons]
    exact (bind_pure _).symm
  | binary op left right ihl ihr =>
    intro usage
    have hoperands : r.checkFilter usage usage.isCompared (.binary op left right) =
        r.checkFilter op.operandUsage op.operandUsage.isCompared left >>= fun _ =>
          r.checkFilter op.operandUsage op.operandUsage.isCompared right := by
      rw [checkFilter]
      cases op <;> rfl
    rw [hoperands, ihl, ihr, forM_preorder ⟨.binary op left right, usage⟩, judge,
      Filter.operands, List.forM_cons, List.forM_cons]
    exact congrArg _ (funext fun _ => (bind_pure _).symm)
  | call name args ih =>
    intro usage
    rw [forM_preorder, checkFilter, judge, Filter.operands, ← checkArguments_eq ih]
    cases r.get? name with
    | none => rfl
    | some f => rfl

lemma checkUsage_eq (r : Registry) (q : Query) :
    r.checkUsage q = forM q.occurrences (judge r) := by
  rw [checkUsage, checkSegments_eq fun _ _ f _ => checksOccurrences r f, Query.occurrences,
    forM_flatMap]

lemma checkUsage_eq_ok_iff (r : Registry) (q : Query) :
    r.checkUsage q = .ok () ↔ ∀ o, q.Occurs o → o.Obeys r := by
  simp only [checkUsage_eq, forM_eq_ok_iff, mem_occurrences, judge_eq_ok_iff]

lemma checkUsage_eq_error_iff (r : Registry) (q : Query) (e : UsageError) :
    r.checkUsage q = .error e ↔
      ∃ before o after, q.occurrences = before ++ o :: after ∧ (∀ p ∈ before, p.Obeys r) ∧
        o.Breaks r e := by
  simp only [checkUsage_eq, forM_eq_error_iff, judge_eq_ok_iff, judge_eq_error_iff]

/-- **A query is accepted if all that occurs in its filters obeys its rule**, at any depth, and
only then. Otherwise the error is that of the first occurrence, in the order of the text, that
breaks its rule. -/
theorem checkUsage_characterized (r : Registry) (q : Query) :
    (r.checkUsage q = .ok () ↔ ∀ o, q.Occurs o → o.Obeys r) ∧
      ∀ e, r.checkUsage q = .error e ↔
        ∃ before o after, q.occurrences = before ++ o :: after ∧ (∀ p ∈ before, p.Obeys r) ∧
          o.Breaks r e :=
  ⟨checkUsage_eq_ok_iff r q, checkUsage_eq_error_iff r q⟩

end Registry
end JsonQuery
