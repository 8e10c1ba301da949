import JsonQuery.Proofs.Concatenation
import JsonQuery.Proofs.Operands

/-!
Singular queries. Each segment of a singular query is one name or one index, which finds at most
one child of a node; so the query leads down to one node or to none, whatever its length. The
program of the query selects this node and nothing else.
-/

namespace JsonQuery

/-- Finding a child by name in an object, or by its place in an array, which is counted from the
end if the index is negative. -/
inductive Selector.Finds : Selector → Json → Json → Prop
  | member {name : String} {members : List (String × Json)} {child : Json}
    (h : members.lookup name = some child) : Finds (.name name) (.object members) child
  | fromStart {i : Nat} {items : List Json} {child : Json} (h : items[i]? = some child) :
    Finds (.index i) (.array items) child
  | fromEnd {k : Nat} {items : List Json} {child : Json} (hk : 0 < k) (hle : k ≤ items.length)
    (h : items[items.length - k]? = some child) : Finds (.index (-k)) (.array items) child

/-- Following the names and indices of a query one by one. -/
inductive Query.Leads : Query → Json → Json → Prop
  | here (j : Json) : Leads [] j j
  | down {s : Selector} {q : Query} {j child target : Json} (h : s.Finds j child)
    (hq : Leads q child target) : Leads (⟨false, [s]⟩ :: q) j target

/-! ### One step -/

lemma Json.element?_natCast (j : Json) (i : Nat) : j.element? i = j.elements[i]? := by
  have hi : ¬ (i : Int) < 0 := by omega
  simp [element?, hi]

lemma Json.element?_neg {j : Json} {k : Nat} (hk : 0 < k) :
    j.element? (-k) =
      if k ≤ j.elements.length then j.elements[j.elements.length - k]? else none := by
  have hneg : -(k : Int) < 0 := by omega
  have hplace : (0 : Int) ≤ -k + j.elements.length ↔ k ≤ j.elements.length := by omega
  have hnat : (-(k : Int) + j.elements.length).toNat = j.elements.length - k := by omega
  simp only [element?, if_pos hneg, hplace, hnat]

lemma Json.element?_eq_some_iff {j child : Json} {position : Int} :
    j.element? position = some child ↔ (Selector.index position).Finds j child := by
  constructor
  · intro h
    obtain ⟨i, rfl⟩ | ⟨k, rfl⟩ :
        (∃ i : Nat, position = i) ∨ ∃ k : Nat, position = -(k + 1 : Nat) := by
      rcases Int.lt_or_le position 0 with hneg | hpos
      · exact .inr ⟨(-position - 1).toNat, by omega⟩
      · exact .inl ⟨position.toNat, by omega⟩
    · rw [element?_natCast] at h
      cases j with
      | array items => exact .fromStart h
      | _ => cases h
    · rw [element?_neg (Nat.succ_pos k)] at h
      split_ifs at h with hle
      cases j with
      | array items => exact .fromEnd (Nat.succ_pos k) hle h
      | _ => cases h
  · rintro (_ | h | ⟨hk, hle, h⟩)
    · rw [element?_natCast]
      exact h
    · rw [element?_neg hk, elements, if_pos hle]
      exact h

lemma Json.member?_eq_some_iff {j child : Json} {name : String} :
    j.member? name = some child ↔ (Selector.name name).Finds j child := by
  constructor
  · intro h
    cases j with
    | object members => exact .member h
    | _ => cases h
  · rintro ⟨h⟩
    exact h

section Select

variable (r : Registry) (root : Json)

lemma Selector.select_eq_singleton_iff {s : Selector} (hs : s.isSingular = true)
    {node child : Json} : s.select r root node = [child] ↔ s.Finds node child := by
  cases s with
  | name key => rw [select, Option.toList_eq_singleton_iff, Json.member?_eq_some_iff]
  | index position => rw [select, Option.toList_eq_singleton_iff, Json.element?_eq_some_iff]
  | _ => cases hs

/-- A segment with a name or an index takes from a node what the rest takes from the child. -/
lemma Segment.selectAll_cons_singular (s : Selector) (q : Query) (node : Json) :
    Segment.selectAll r root (⟨false, [s]⟩ :: q) [node] =
      (s.select r root node).flatMap fun child => Segment.selectAll r root q [child] := by
  have hstep : Segment.select r root ⟨false, [s]⟩ [node] = s.select r root node := by
    simp [Segment.select, Selector.selectAll]
  rw [Segment.selectAll, hstep, Segment.selectAll_eq_flatMap]

/-- What a singular query selects is the node that its names and indices lead to. -/
lemma Query.selectAll_eq_singleton_iff {q : Query} (hq : q.isSingular = true)
    {start target : Json} :
    Segment.selectAll r root q [start] = [target] ↔ q.Leads start target := by
  induction q generalizing start with
  | nil =>
    rw [Segment.selectAll, List.singleton_inj]
    constructor
    · rintro rfl
      exact .here _
    · rintro ⟨⟩
      rfl
  | cons s q ih =>
    obtain ⟨hs, hrest⟩ := Bool.and_eq_true_iff.1 hq
    obtain ⟨selector, rfl, hselector⟩ := Segment.exists_of_isSingular hs
    have hfinds : ∀ child, selector.select r root start = [child] ↔ selector.Finds start child :=
      fun child => Selector.select_eq_singleton_iff r root hselector
    rw [Segment.selectAll_cons_singular]
    constructor
    · intro h
      obtain ⟨found, hfound⟩ := Selector.exists_select_eq_toList r root hselector start
      cases found with
      | none =>
        rw [hfound] at h
        cases h
      | some child =>
        rw [hfound, Option.toList_some, List.flatMap_singleton, ih hrest] at h
        exact .down ((hfinds child).1 hfound) h
    · intro h
      cases h with
      | down hchild h =>
        rw [(hfinds _).2 hchild, List.flatMap_singleton, ih hrest]
        exact h

end Select

namespace Program

/-- **A singular query selects one node at most.** Its program runs without a fault, from every
node, and selects the node to which the names and indices of the query lead one by one, or
nothing if there is none. -/
theorem runFrom_of_isSingular (r : Registry) (q : Query) (p : Program)
    (hq : q.isSingular = true) (h : r.assemble q = .ok p) (root start : Json) :
    (p.machine root).run (.initial start) = .ok (p.runFrom root start).toArray ∧
      (p.runFrom root start).length ≤ 1 ∧
      ∀ target, p.runFrom root start = [target] ↔ q.Leads start target := by
  rw [runFrom_of_assemble h]
  refine ⟨run_of_assemble h root start, ?_, fun target => ?_⟩
  · exact length_selectAll_le_one r root hq (Nat.le_refl 1)
  · exact Query.selectAll_eq_singleton_iff r root hq

end Program

/-- A name, and an index that counts from the end. -/
def Query.last : Query := [⟨false, [.name "a"]⟩, ⟨false, [.index (-1)]⟩]

def Program.ofLast : Program where
  code := [.blockBegin 2, .selectName 0, .blockEnd, .blockBegin 5, .selectIndex 1, .blockEnd]
  constants := [.name "a", .index (-1)]
  source := some "$['a'][-1]"

lemma assemble_last (r : Registry) : r.assemble Query.last = .ok Program.ofLast := by
  have hverify : Program.verify Program.ofLast.code Program.ofLast.constants = .ok () := rfl
  have htext : Query.text Query.last = "$['a'][-1]" := rfl
  simp only [Query.last, Program.ofLast] at hverify htext ⊢
  simp [Registry.assemble, Registry.assembleSegments, Registry.assembleSelectors,
    Registry.assembleSelector, Builder.startSegment, Builder.append, Builder.openBlock,
    Builder.appendWith, Builder.intern, Constant.shared?, Builder.finishSegment,
    Builder.closeBlock, Quota.limit, Builder.program, Program.ofParts, Program.setSource,
    Std.HashMap.getElem?_insert, bind, Except.bind, pure, Except.pure, Except.mapError, hverify,
    htext]

theorem Program.last_runFrom_of_isSingular :
    Query.last.isSingular = true ∧ Registry.standard.assemble Query.last = .ok ofLast ∧
      ∀ root start : Json,
        (ofLast.machine root).run (.initial start) = .ok (ofLast.runFrom root start).toArray ∧
          (ofLast.runFrom root start).length ≤ 1 ∧
          ∀ target, ofLast.runFrom root start = [target] ↔ Query.last.Leads start target :=
  ⟨rfl, assemble_last _, runFrom_of_isSingular Registry.standard _ _ rfl (assemble_last _)⟩

end JsonQuery
