import JsonQuery.Machine.Run
import JsonQuery.Proofs.Lowering
import JsonQuery.Proofs.SliceIndices
import Mathlib.Data.List.Nodup

/-!
Slices as they are executed. Whatever instruction a slice becomes, executing it appends to what
has been taken the elements that the slice means: those at the indices to which the step leads
from the first bound on, as long as they have not passed the second one.
-/

namespace JsonQuery

open Slice (progression)

/-- The numbers that a loop runs through: a first one, and then by a step at a time, as long as
they are inside; the one after the last is not. -/
def Runs (first step : Int) (inside : Int → Prop) (is : List Int) : Prop :=
  is = progression first step is.length ∧ (∀ i ∈ is, inside i) ∧ ¬inside (first + is.length * step)

namespace Runs

variable {i step : Int} {inside : Int → Prop} {is : List Int}

lemma nil (h : ¬inside i) : Runs i step inside [] := ⟨rfl, nofun, by simpa using h⟩

lemma cons (hi : inside i) (h : Runs (i + step) step inside is) : Runs i step inside (i :: is) := by
  obtain ⟨heq, hinside, hlast⟩ := h
  refine ⟨?_, List.forall_mem_cons.2 ⟨hi, hinside⟩, ?_⟩
  · rw [List.length_cons, progression_succ, ← heq]
  · have hnext : i + step + is.length * step = i + (i :: is).length * step := by
      rw [List.length_cons, Int.natCast_succ, Int.add_mul, Int.one_mul]
      omega
    rwa [hnext] at hlast

/-- A loop runs through no number twice. -/
lemma nodup (h : Runs i step inside is) (hstep : step ≠ 0) : is.Nodup := by
  rw [h.1, progression]
  refine List.Nodup.map (fun m n hmn => ?_) List.nodup_range
  have hmul : (m : Int) * step = n * step := Int.add_left_cancel hmn
  exact Int.ofNat_inj.1 (Int.eq_of_mul_eq_mul_right hstep hmul)

end Runs

lemma runs_up {i limit step : Int} (hstep : 0 < step) {n : Nat} (hn : limit - i ≤ n) :
    Runs i step (· < limit) ((progression i step n).filter (· < limit)) := by
  induction n generalizing i with
  | zero => exact .nil (by omega)
  | succ n ih =>
    by_cases hi : i < limit
    · rw [progression_succ, List.filter_cons_of_pos (by simpa using hi)]
      exact .cons hi (ih (by omega))
    · rw [filter_up_eq_nil hstep (by omega)]
      exact .nil hi

lemma runs_down {i limit step : Int} (hstep : step < 0) {n : Nat} (hn : i - limit ≤ n) :
    Runs i step (limit < ·) ((progression i step n).filter (limit < ·)) := by
  induction n generalizing i with
  | zero => exact .nil (by omega)
  | succ n ih =>
    by_cases hi : limit < i
    · rw [progression_succ, List.filter_cons_of_pos (by simpa using hi)]
      exact .cons hi (ih (by omega))
    · rw [filter_down_eq_nil hstep (by omega)]
      exact .nil hi

namespace Slice

variable {s : Slice}

/-! ### Positions -/

lemma runs_positions_up (hs : 0 < s.step) (size : Nat) :
    Runs (s.upwardBounds size).1 s.step (· < (s.upwardBounds size).2) (s.positions size) := by
  have hbounds := s.upwardBounds_mem size
  rw [positions_up hs]
  exact runs_up hs (by omega)

lemma runs_positions_down (hs : s.step < 0) (size : Nat) :
    Runs (s.downwardBounds size).1 s.step ((s.downwardBounds size).2 < ·) (s.positions size) := by
  have hbounds := s.downwardBounds_mem size
  rw [positions_down hs]
  exact runs_down hs (by omega)

lemma nodup_positions (s : Slice) (size : Nat) : (s.positions size).Nodup := by
  rcases Int.lt_trichotomy s.step 0 with hs | hs | hs
  · exact (runs_positions_down hs size).nodup (by omega)
  · rw [positions_eq_nil hs]
    exact .nil
  · exact (runs_positions_up hs size).nodup (by omega)

/-- Each position gives one element. -/
lemma map_some_elements (s : Slice) (items : List Json) :
    (s.elements (.array items)).map some =
      (s.positions items.length).map fun i => items[i.toNat]? := by
  have hpresent : ∀ is : List Int, (∀ i ∈ is, 0 ≤ i ∧ i < items.length) →
      (is.filterMap fun i => items[i.toNat]?).map some = is.map fun i => items[i.toNat]? := by
    intro is his
    induction is with
    | nil => rfl
    | cons i is ih =>
      obtain ⟨hi, his⟩ := List.forall_mem_cons.1 his
      have hlt : i.toNat < items.length := by omega
      have hget : items[i.toNat]? = some items[i.toNat] := List.getElem?_eq_getElem hlt
      simp only [List.filterMap_cons, List.map_cons, hget, ih his]
  exact hpresent _ fun i => mem_positions

lemma elements_eq_nil {node : Json} (h : s.step = 0 ∨ ∀ items, node ≠ .array items) :
    s.elements node = [] := by
  rcases h with hs | hnode
  · rw [elements_eq, positions_eq_nil hs]
    rfl
  · cases node with
    | array items => exact absurd rfl (hnode items)
    | _ => rfl

/-! ### Instructions -/

/-- The instruction that a slice becomes, given the number of its constant. -/
def instruction (s : Slice) (c : Nat) : Instruction :=
  match s.form with
  | .nothing => .sliceEmpty
  | .everything => .selectArrayAll
  | .opcode o => .slice o c

/-- Compiling appends this instruction, and it refers to the numbers of the slice. -/
lemma adds_appendSlice {b b' : Builder} (hb : b.Sound) (h : b.appendSlice s = .ok b') :
    ∃ c, b.Adds [s.instruction c] b' ∧
      ∀ o, s.form = .opcode o → b'.constants.toList[c]? = some (.slice s.numbers) := by
  unfold Builder.appendSlice at h
  unfold instruction
  cases hform : s.form with
  | nothing =>
    rw [hform] at h
    cases h
    exact ⟨0, Builder.adds_append hb _, nofun⟩
  | everything =>
    rw [hform] at h
    cases h
    exact ⟨0, Builder.adds_append hb _, nofun⟩
  | opcode o =>
    rw [hform] at h
    obtain ⟨c, hadds, hc⟩ := Builder.appendWith_spec hb h
    exact ⟨c, hadds, fun _ _ => hc⟩

/-- What the instruction takes from a node, with the numbers of the slice as its operand. -/
lemma select?_instruction (s : Slice) (c : Nat) {operand : Option Operand}
    (ho : ∀ o, s.form = .opcode o → operand = some (.slice s.numbers)) (node : Json) :
    (s.instruction c).select? operand node = some (s.elements node) := by
  unfold instruction
  cases hform : s.form with
  | nothing => rw [elements_of_form_nothing hform]; rfl
  | everything => rw [elements_of_form_everything hform]; rfl
  | opcode o =>
    rw [ho o hform]
    exact slice?_of_form hform node

/-- All elements are what the loop of step one takes that has no bounds. -/
lemma select?_everything (c : Nat) (node : Json) :
    Instruction.select? .selectArrayAll none node =
      Instruction.select? (.slice ⟨.forward, .absent, .absent⟩ c) (some (.slice ⟨0, 0, 1⟩)) node := by
  have hloop := slice?_of_indices? (s := ⟨none, none, 1⟩)
    (indices?_of_step_pos (s := ⟨none, none, 1⟩) Int.one_pos) node
  rw [elements_of_form_everything rfl] at hloop
  exact hloop.symm

variable {m : Machine} {c : Nat}

lemma operand?_instruction
    (hc : ∀ o, s.form = .opcode o → m.operands[c]? = some (.slice s.numbers)) (o : SliceOpcode)
    (ho : s.form = .opcode o) : m.operand? (s.instruction c) = some (.slice s.numbers) := by
  rw [instruction, ho]
  exact hc o ho

lemma execute_instruction_eq (s : Slice) (m : Machine) (c : Nat) (st : State) :
    m.execute (s.instruction c) st = m.select (s.instruction c) st := by
  unfold instruction
  cases s.form <;> rfl

lemma execute_instruction_eq_ok
    (hc : ∀ o, s.form = .opcode o → m.operands[c]? = some (.slice s.numbers)) {st : State}
    {block : OpenBlock} {blocks : List OpenBlock} {node : Json}
    (hblocks : st.blocks = block :: blocks) (hnode : block.current? = some node) :
    m.execute (s.instruction c) st =
      .ok { st with
        pc := st.pc + 1
        blocks := { block with output := block.output ++ s.elements node } :: blocks } := by
  have htaken := s.select?_instruction c (operand?_instruction hc) node
  rw [execute_instruction_eq, Machine.select, hblocks]
  simp only [hnode, htaken]

/-- **Slices take what they mean.** Compiling appends one instruction for a slice, and executing
it appends the elements of the slice to what the block has taken; only an opcode needs the
numbers of the slice as its operand. Only arrays have elements, and a step of zero leads to none;
else there is one element for each position. Positions are indices of the array, none comes
twice, and they are those that a loop runs through between the bounds of the slice; the loop of
the opcode goes through them and no others. The slice of all elements takes what the loop of step
one takes, which for an array is what the wildcard takes. -/
theorem execute_slice (s : Slice) :
    (∀ (b b' : Builder), b.Sound → b.appendSlice s = .ok b' → ∃ c, b.Adds [s.instruction c] b' ∧
        ∀ o, s.form = .opcode o → b'.constants.toList[c]? = some (.slice s.numbers)) ∧
      (∀ (m : Machine) (c : Nat),
        (∀ o, s.form = .opcode o → m.operands[c]? = some (.slice s.numbers)) →
        ∀ (st : State) (block : OpenBlock) (blocks : List OpenBlock) (node : Json),
          st.blocks = block :: blocks → block.current? = some node →
          m.execute (s.instruction c) st =
            .ok { st with
              pc := st.pc + 1
              blocks := { block with output := block.output ++ s.elements node } :: blocks }) ∧
      (∀ node, (s.step = 0 ∨ ∀ items, node ≠ .array items) → s.elements node = []) ∧
      (∀ items, (s.elements (.array items)).map some =
        (s.positions items.length).map fun i => items[i.toNat]?) ∧
      (∀ size : Nat, (∀ i ∈ s.positions size, 0 ≤ i ∧ i < size) ∧ (s.positions size).Nodup ∧
        (0 < s.step → Runs (s.upwardBounds size).1 s.step (· < (s.upwardBounds size).2)
          (s.positions size)) ∧
        (s.step < 0 → Runs (s.downwardBounds size).1 s.step ((s.downwardBounds size).2 < ·)
          (s.positions size)) ∧
        ∀ o, s.form = .opcode o → o.indices? s.numbers size = some (s.positions size)) ∧
      (∀ c, instruction ⟨none, none, 1⟩ c = .selectArrayAll) ∧
      (∀ c node, Instruction.select? .selectArrayAll none node = Instruction.select?
        (.slice ⟨.forward, .absent, .absent⟩ c) (some (.slice ⟨0, 0, 1⟩)) node) ∧
      ∀ items, Instruction.select? .selectArrayAll none (.array items) =
        Instruction.select? .selectWildcard none (.array items) := by
  refine ⟨fun b b' hb h => adds_appendSlice hb h,
    fun m c hc st block blocks node => execute_instruction_eq_ok hc,
    fun node => elements_eq_nil, s.map_some_elements, fun size => ?_, fun c => rfl,
    select?_everything, fun items => rfl⟩
  exact ⟨fun i => mem_positions, s.nodup_positions size, fun hs => runs_positions_up hs size,
    fun hs => runs_positions_down hs size, fun o ho => indices?_of_form ho size⟩

/-- A downward slice that takes every other element of an array of three. -/
theorem execute_downward_slice :
    (#[Operand.slice ⟨-1, 0, -2⟩] : Array Operand)[0]? =
        some (.slice (numbers ⟨some (-1), none, -2⟩)) ∧
      Machine.execute ⟨#[], #[.slice ⟨-1, 0, -2⟩]⟩ (instruction ⟨some (-1), none, -2⟩ 0)
          ⟨1, #[], [⟨#[.array [.null, .bool false, .bool true]], 0, #[.null], 1⟩]⟩ =
        .ok ⟨2, #[], [⟨#[.array [.null, .bool false, .bool true]], 0,
          #[.null, .bool true, .null], 1⟩]⟩ := by
  refine ⟨rfl, ?_⟩
  obtain ⟨-, hexecute, -⟩ := execute_slice ⟨some (-1), none, -2⟩
  rw [hexecute ⟨#[], #[.slice ⟨-1, 0, -2⟩]⟩ 0 (fun _ _ => rfl) _ _ [] _ rfl rfl]
  rfl

end Slice
end JsonQuery
