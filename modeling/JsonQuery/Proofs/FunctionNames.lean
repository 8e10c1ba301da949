import JsonQuery.Proofs.Recompilation
import JsonQuery.Proofs.Registration

/-!
The names of functions. A text can call a function by its name exactly if the name can be
registered: such a name is read as a whole before the parentheses of a call, keywords not
excepted, and the names of all calls that are read are such names.
-/

namespace JsonQuery

open Grammar

/-! ### Calls that are read -/

/-- Whatever occurs in the filters of a well-formed query is well-formed. -/
lemma Query.Occurs.wellFormed {q : Query} {o : Occurrence} (h : q.Occurs o) (hq : q.WellFormed) :
    o.filter.WellFormed := by
  have hconditions {q : Query} (hq : q.WellFormed) : ∀ o ∈ q.conditions, o.filter.WellFormed := by
    intro o ho
    obtain ⟨⟨descendant, selectors⟩, hs, f, hf, rfl⟩ := Occurrence.mem_conditions.1 ho
    have hselectors := ((Segment.allWellFormed_iff q).1 hq _ hs).2
    exact (Selector.allWellFormed_iff selectors).1 hselectors _ hf
  induction h with
  | condition ho => exact hconditions hq _ ho
  | @operand o o' _ ho' ih =>
    obtain ⟨f, usage⟩ := o
    cases f with
    | literal value => cases ho'
    | query origin segments => exact hconditions (q := segments) ih _ ho'
    | not operand =>
      obtain rfl := List.mem_singleton.1 ho'
      exact ih
    | binary op left right =>
      obtain rfl | rfl := List.mem_pair.1 ho'
      · exact ih.1
      · exact ih.2
    | call name args =>
      obtain ⟨arg, harg, rfl⟩ := List.mem_map.1 ho'
      exact (Filter.allWellFormed_iff args).1 ih.2 arg harg

lemma Query.Calls.isFunctionName {q : Query} {name : String} (h : q.Calls name)
    (hq : q.WellFormed) : isFunctionName name = true := by
  obtain ⟨args, usage, ho⟩ := h
  exact (ho.wellFormed hq).1

/-- A call without arguments, in the brackets of a query. -/
def Query.ofCall (name : String) : Query := Query.ofFilter (.call name [])

lemma Query.calls_ofCall (name : String) : (Query.ofCall name).Calls name :=
  ⟨[], .logical, .condition (Occurrence.mem_conditions.2
    ⟨_, List.mem_singleton_self _, _, List.mem_singleton_self _, rfl⟩)⟩

/-- A name that can be registered is read before the parentheses of a call. -/
lemma Query.parse_call {name : String} (h : isFunctionName name = true) :
    Query.parse ("$[?" ++ name ++ "()]") = .ok (Query.ofCall name) := by
  have hname : IsName name.toList := isName_iff.2 (by rwa [String.ofList_toList])
  have hcall := IsPrimary.callEmpty hname blanks_nil
  rw [String.ofList_toList] at hcall
  have htext : "$[?" ++ name ++ "()]" =
      "$[?" ++ String.ofList (name.toList ++ '(' :: [] ++ [')']) ++ "]" := by
    apply String.toList_injective
    simp
  rw [htext]
  exact Query.parse_bracketed hcall.isOperand.isFilter

/-! ### Names that are refused -/

lemma Registry.add_ne_badName (r : Registry) (name bad : String) (f : Function) :
    r.add name f ≠ .error (.badName bad) := by
  rw [add]
  split_ifs <;> simp

lemma Registration.result_eq_badName_iff (reg : Registration) (r : Registry) (bad : String) :
    reg.result r = .error (.badName bad) ↔ isFunctionName reg.name = false ∧ reg.name = bad := by
  cases reg with
  | function name f =>
    rw [result, Registry.register]
    split_ifs with h
    · simp [Registry.add_ne_badName, Registration.name, h]
    · simp [Registration.name, h]
  | definition name d =>
    rw [result, Registry.define]
    split_ifs with h
    · cases d.function? with
      | none => simp [Registration.name, h]
      | some f => simp [Registry.add_ne_badName, Registration.name, h]
    · simp [Registration.name, h]

/-- **A name can be registered exactly if it can be called.** Between the brackets of a filter, a
name with two parentheses behind it is read as the call of a function of just this name exactly if
it can be registered; and a registration is refused for its name exactly if there is no text in
whose query, at whatever depth, a function of that name is called. -/
theorem isFunctionName_iff_callable :
    (∀ name, isFunctionName name = true ↔
      Query.parse ("$[?" ++ name ++ "()]") = .ok [⟨false, [.filter (.call name [])]⟩]) ∧
    ∀ (r : Registry) (reg : Registration), reg.result r = .error (.badName reg.name) ↔
      ∀ input q, Query.parse input = .ok q → ¬ q.Calls reg.name := by
  refine ⟨fun name => ⟨Query.parse_call, fun h => ?_⟩, fun r reg => ?_⟩
  · exact (Query.calls_ofCall name).isFunctionName (Query.wellFormed_of_parse h)
  · rw [Registration.result_eq_badName_iff]
    constructor
    · rintro ⟨hname, -⟩ input q hq hcalls
      rw [hcalls.isFunctionName (Query.wellFormed_of_parse hq)] at hname
      cases hname
    · intro hnone
      refine ⟨?_, rfl⟩
      by_contra hname
      exact hnone _ _ (Query.parse_call (by simpa using hname)) (Query.calls_ofCall reg.name)

end JsonQuery
