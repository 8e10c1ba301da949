import JsonQuery.Proofs.Lowering
import JsonQuery.Proofs.Occurrences
import Mathlib.Algebra.Order.BigOperators.Group.List
import Mathlib.Algebra.Order.Group.Nat
import Mathlib.Data.Finset.Card
import Mathlib.Data.List.Flatten

/-!
What a query demands of a program: constants, of which equal names, indices and slices share
one, and instructions. A builder to which segments have been added holds just what they demand,
so building fails if the demands exceed what a program can hold, or if some filter cannot be
compiled, and only then.
-/

namespace JsonQuery

/-! ### Demands -/

/-- The constant that a selector shares with those that ask for the same. -/
def Selector.shared? : Selector → Option SharedConstant
  | .name key => some (.name key)
  | .index position => some (.index position)
  | .slice s =>
    match s.form with
    | .opcode _ => some (.slice s.numbers)
    | _ => none
  | _ => none

/-- The number of constants that selectors demand: one for all that are equal, and one for each
filter. -/
def Selector.constantsNeeded (selectors : List Selector) : Nat :=
  (selectors.filterMap shared?).dedup.length + (selectors.filterMap condition?).length

/-- The number of instructions that a segment becomes. -/
def Segment.instructionsNeeded (s : Segment) : Nat :=
  (if s.descendant then 1 else 0) + s.selectors.length + 2

namespace Query

def selectors (q : Query) : List Selector := q.flatMap Segment.selectors

def constantsNeeded (q : Query) : Nat := Selector.constantsNeeded q.selectors

def instructionsNeeded (q : Query) : Nat := (q.map Segment.instructionsNeeded).sum

/-- A query demands more than a program can hold. The queries within its filters are programs
of their own and do not count. -/
def Exceeds (q : Query) : Quota → Prop
  | .constants => 2 ^ 16 < q.constantsNeeded
  | .instructions => 2 ^ 32 < q.instructionsNeeded

end Query

namespace Selector

variable {ss ts : List Selector} {s : Selector}

lemma constantsNeeded_eq (ss : List Selector) : constantsNeeded ss =
    (ss.filterMap shared?).toFinset.card + (ss.filterMap condition?).length := by
  rw [constantsNeeded, List.card_toFinset]

lemma constantsNeeded_le_of_sublist (h : ss.Sublist ts) :
    constantsNeeded ss ≤ constantsNeeded ts := by
  rw [constantsNeeded_eq, constantsNeeded_eq]
  have hshared : (ss.filterMap shared?).toFinset ⊆ (ts.filterMap shared?).toFinset := by
    intro key hkey
    rw [List.mem_toFinset] at hkey ⊢
    exact (h.filterMap shared?).subset hkey
  exact Nat.add_le_add (Finset.card_le_card hshared) (h.filterMap condition?).length_le

lemma constantsNeeded_append_none (hs : s.shared? = none) (hs' : s.condition? = none) :
    constantsNeeded (ss ++ [s]) = constantsNeeded ss := by
  simp [constantsNeeded_eq, List.filterMap_append, hs, hs']

lemma constantsNeeded_append_condition {o : Occurrence} (hs : s.shared? = none)
    (hs' : s.condition? = some o) :
    constantsNeeded (ss ++ [s]) = constantsNeeded ss + 1 := by
  simp [constantsNeeded_eq, List.filterMap_append, hs, hs', Nat.add_assoc]

lemma constantsNeeded_append_shared {key : SharedConstant} (hs : s.shared? = some key)
    (hs' : s.condition? = none) : constantsNeeded (ss ++ [s]) =
      constantsNeeded ss + if key ∈ ss.filterMap shared? then 0 else 1 := by
  have hset : ((ss ++ [s]).filterMap shared?).toFinset =
      insert key (ss.filterMap shared?).toFinset := by
    rw [List.filterMap_append]
    simp [hs]
  have hconditions : (ss ++ [s]).filterMap condition? = ss.filterMap condition? := by
    simp [List.filterMap_append, hs']
  rw [constantsNeeded_eq, constantsNeeded_eq, hset, hconditions]
  split_ifs with hkey
  · rw [Finset.insert_eq_of_mem (List.mem_toFinset.2 hkey), Nat.add_zero]
  · rw [Finset.card_insert_of_notMem (mt List.mem_toFinset.1 hkey), Nat.add_right_comm]

end Selector

namespace Query

variable {q q' : Query}

lemma selectors_append (q q' : Query) : selectors (q ++ q') = q.selectors ++ q'.selectors :=
  List.flatMap_append

lemma instructionsNeeded_append (q q' : Query) :
    instructionsNeeded (q ++ q') = q.instructionsNeeded + q'.instructionsNeeded := by
  simp [instructionsNeeded]

/-- Segments left out of a query leave its demands no higher. -/
lemma Exceeds.of_sublist {quota : Quota} (hq : q.Exceeds quota) (h : q.Sublist q') :
    q'.Exceeds quota := by
  cases quota with
  | constants =>
    exact hq.trans_le (Selector.constantsNeeded_le_of_sublist (h.flatMap Segment.selectors))
  | instructions =>
    exact hq.trans_le ((h.map Segment.instructionsNeeded).sum_le_sum fun _ _ => Nat.zero_le _)

end Query

/-! ### Constants -/

/-- The constants of the builder are those that the selectors demand. -/
structure Builder.Serves (b : Builder) (selectors : List Selector) : Prop where
  shared : ∀ key, key ∈ b.shared ↔ key ∈ selectors.filterMap Selector.shared?
  size : b.constants.size = Selector.constantsNeeded selectors
  fits : b.constants.size ≤ 2 ^ 16

namespace Builder

variable {b b' : Builder} {ss : List Selector} {s : Selector}

lemma serves_empty : Serves {} [] where
  shared key := by simp
  size := rfl
  fits := by simp

/-- Only the constants matter. -/
lemma Serves.congr {ss : List Selector} (hb : b.Serves ss) (hconstants : b'.constants = b.constants)
    (hshared : b'.shared = b.shared) : b'.Serves ss where
  shared key := hshared ▸ hb.shared key
  size := hconstants ▸ hb.size
  fits := hconstants ▸ hb.fits

/-- A selector without a constant leaves the constants as they are. -/
lemma Serves.append (hb : b.Serves ss) (hs : s.shared? = none) (hs' : s.condition? = none)
    (i : Instruction) : (b.append i).2.Serves (ss ++ [s]) where
  shared key := by
    rw [List.filterMap_append, List.filterMap_cons_none hs, List.filterMap_nil, List.append_nil]
    exact hb.shared key
  size := by rw [Selector.constantsNeeded_append_none hs hs']; exact hb.size
  fits := hb.fits

/-- The builder after a new constant. -/
def push (b : Builder) (constant : Constant) : Builder :=
  { b with
    constants := b.constants.push constant
    shared := match constant.shared? with
      | some key => b.shared.insert key b.constants.size
      | none => b.shared }

lemma mem_shared_push (b : Builder) (constant : Constant) (key : SharedConstant) :
    key ∈ (b.push constant).shared ↔ key ∈ b.shared ∨ constant.shared? = some key := by
  rw [push]
  split
  · rename_i own hown
    rw [Std.HashMap.mem_insert, hown, Option.some.injEq, beq_iff_eq, or_comm]
  · rename_i hown
    simp [hown]

/-- What interning does: it finds the constant, or has no room for it, or adds it. -/
lemma intern_cases (b : Builder) (constant : Constant) :
    (∃ key c, constant.shared? = some key ∧ key ∈ b.shared ∧ b.intern constant = (.ok c, b)) ∨
    (∀ key, constant.shared? = some key → key ∉ b.shared) ∧
      (2 ^ 16 ≤ b.constants.size ∧
          b.intern constant = (.error (.tooLarge .constants), b) ∨
        b.constants.size < 2 ^ 16 ∧
          b.intern constant = (.ok b.constants.size, b.push constant)) := by
  cases hfound : constant.shared?.bind (b.shared[·]?) with
  | some c =>
    obtain ⟨key, hkey, hc⟩ := Option.bind_eq_some_iff.1 hfound
    have hmem : key ∈ b.shared := by
      rw [Std.HashMap.mem_iff_isSome_getElem?, hc]
      rfl
    exact .inl ⟨key, c, hkey, hmem, by rw [intern, hfound]⟩
  | none =>
    refine .inr ⟨fun key hkey hmem => ?_, ?_⟩
    · rw [hkey, Option.bind_some] at hfound
      rw [Std.HashMap.mem_iff_isSome_getElem?, hfound] at hmem
      cases hmem
    have hintern : b.intern constant =
        if 2 ^ 16 ≤ b.constants.size then (.error (.tooLarge .constants), b)
        else (.ok b.constants.size, b.push constant) := by
      rw [intern, hfound]
      rfl
    rw [hintern]
    rcases Nat.lt_or_ge b.constants.size (2 ^ 16) with hroom | hfull
    · exact .inr ⟨hroom, if_neg (Nat.not_le.2 hroom)⟩
    · exact .inl ⟨hfull, if_pos hfull⟩

/-- A selector whose constant is there already demands no other. -/
lemma Serves.again (hb : b.Serves ss) {key : SharedConstant} (hs : s.shared? = some key)
    (hs' : s.condition? = none) (hmem : key ∈ b.shared) : b.Serves (ss ++ [s]) where
  shared key' := by
    rw [hb.shared, List.filterMap_append]
    have hkey := (hb.shared key).1 hmem
    constructor
    · exact List.mem_append_left _
    · intro h
      rcases List.mem_append.1 h with h | h
      · exact h
      · obtain rfl : key' = key := by simpa [hs] using h
        exact hkey
  size := by
    rw [Selector.constantsNeeded_append_shared hs hs', if_pos ((hb.shared key).1 hmem)]
    exact hb.size
  fits := hb.fits

/-- A selector whose constant is not there demands one more. -/
lemma Serves.constantsNeeded_append (hb : b.Serves ss)
    (hcondition : s.condition?.isSome = s.shared?.isNone)
    (hnew : ∀ key, s.shared? = some key → key ∉ b.shared) :
    Selector.constantsNeeded (ss ++ [s]) = Selector.constantsNeeded ss + 1 := by
  cases hs : s.shared? with
  | none =>
    rw [hs] at hcondition
    obtain ⟨o, ho⟩ := Option.isSome_iff_exists.1 hcondition
    exact Selector.constantsNeeded_append_condition hs ho
  | some key =>
    rw [hs] at hcondition
    have hkey : key ∉ ss.filterMap Selector.shared? := mt (hb.shared key).2 (hnew key hs)
    rw [Selector.constantsNeeded_append_shared hs (by simpa using hcondition), if_neg hkey]

lemma Serves.push (hb : b.Serves ss) {constant : Constant} (hshared : constant.shared? = s.shared?)
    (hneeded : Selector.constantsNeeded (ss ++ [s]) = Selector.constantsNeeded ss + 1)
    (hroom : b.constants.size < 2 ^ 16) : (b.push constant).Serves (ss ++ [s]) := by
  have hsize : (b.push constant).constants.size = b.constants.size + 1 := Array.size_push ..
  refine ⟨fun key => ?_, ?_, ?_⟩
  · rw [mem_shared_push, hb.shared, hshared]
    simp [or_comm, eq_comm]
  · rw [hneeded, ← hb.size, hsize]
  · exact hsize ▸ hroom

/-- A selector with a constant is served, unless it demands one too many. -/
lemma Serves.appendWith_cases (hb : b.Serves ss) {constant : Constant}
    (hshared : constant.shared? = s.shared?)
    (hcondition : s.condition?.isSome = s.shared?.isNone) (instruction : Nat → Instruction) :
    (∃ b', b.appendWith constant instruction = .ok b' ∧ b'.Serves (ss ++ [s])) ∨
      (b.appendWith constant instruction = .error (.tooLarge .constants) ∧
        2 ^ 16 < Selector.constantsNeeded (ss ++ [s])) := by
  rcases b.intern_cases constant with ⟨key, c, hkey, hmem, hintern⟩ | ⟨hnew, hintern⟩
  · -- an equal constant is there
    have hs := hshared.symm.trans hkey
    have hs' : s.condition? = none := by
      rw [hs] at hcondition
      simpa using hcondition
    have hb' : b.appendWith constant instruction = .ok (b.append (instruction c)).2 := by
      rw [appendWith, hintern]
    exact .inl ⟨_, hb', (hb.again hs hs' hmem).congr rfl rfl⟩
  · -- a new constant, for which there may be no room
    have hneeded := hb.constantsNeeded_append hcondition fun key hs => hnew key (hshared.trans hs)
    rcases hintern with ⟨hfull, hintern⟩ | ⟨hroom, hintern⟩
    · refine .inr ⟨by rw [appendWith, hintern], ?_⟩
      rw [hneeded, ← hb.size]
      omega
    · have hb' : b.appendWith constant instruction =
          .ok ((b.push constant).append (instruction b.constants.size)).2 := by
        rw [appendWith, hintern]
      exact .inl ⟨_, hb', (hb.push hshared hneeded hroom).congr rfl rfl⟩

end Builder

/-! ### Selectors -/

/-- What comes of adding selectors behind others: they are served and all their filters are
compiled, or they demand too many constants, or one of their filters fails. -/
inductive Selector.Added (r : Registry) (done ss : List Selector) :
    Except CompileError Builder → Prop
  | served {b : Builder} (hb : b.Serves (done ++ ss))
    (hf : ∀ f, .filter f ∈ ss → ∃ c, r.assembleFilter f = .ok c) : Added r done ss (.ok b)
  | tooLarge (h : 2 ^ 16 < constantsNeeded (done ++ ss)) :
    Added r done ss (.error (.tooLarge .constants))
  | failed {f : Filter} {e : CompileError} (hf : .filter f ∈ ss)
    (h : r.assembleFilter f = .error e) : Added r done ss (.error e)

namespace Registry

variable {r : Registry} {b : Builder} {done : List Selector}

lemma added_appendWith (hb : b.Serves done) {s : Selector} {constant : Constant}
    (hshared : constant.shared? = s.shared?)
    (hcondition : s.condition?.isSome = s.shared?.isNone)
    (hf : ∀ f, s = .filter f → ∃ c, r.assembleFilter f = .ok c) (instruction : Nat → Instruction) :
    Selector.Added r done [s] (b.appendWith constant instruction) := by
  rcases hb.appendWith_cases hshared hcondition instruction with ⟨b', hb', hserves⟩ | ⟨he, hmany⟩
  · rw [hb']
    exact .served hserves fun f hmem => hf f (List.mem_singleton.1 hmem).symm
  · rw [he]
    exact .tooLarge hmany

lemma added_append (hb : b.Serves done) {s : Selector} (hs : s.shared? = none)
    (hs' : s.condition? = none) (i : Instruction) :
    Selector.Added r done [s] (.ok (b.append i).2) := by
  refine .served (hb.append hs hs' i) fun f hmem => ?_
  obtain rfl := List.mem_singleton.1 hmem
  cases hs'

lemma added_assembleSelector (hb : b.Serves done) (s : Selector) :
    Selector.Added r done [s] (r.assembleSelector b s) := by
  cases s with
  | name key => exact added_appendWith hb rfl rfl (by simp) _
  | index position => exact added_appendWith hb rfl rfl (by simp) _
  | wildcard => exact added_append hb rfl rfl _
  | slice s =>
    rw [assembleSelector, Builder.appendSlice]
    cases hform : s.form with
    | nothing => exact added_append hb (by simp [Selector.shared?, hform]) rfl _
    | everything => exact added_append hb (by simp [Selector.shared?, hform]) rfl _
    | opcode o =>
      have hshared : (Constant.slice s.numbers).shared? = (Selector.slice s).shared? := by
        simp [Selector.shared?, hform, Constant.shared?]
      exact added_appendWith hb hshared (by rw [← hshared]; rfl) (by simp) _
  | filter f =>
    rw [assembleSelector]
    cases hf : r.assembleFilter f with
    | error e => exact .failed (List.mem_singleton_self _) hf
    | ok c =>
      refine added_appendWith hb rfl rfl ?_ _
      intro f' hf'
      cases hf'
      exact ⟨c, hf⟩

lemma added_assembleSelectors (hb : b.Serves done) (ss : List Selector) :
    Selector.Added r done ss (r.assembleSelectors b ss) := by
  induction ss generalizing b done with
  | nil => exact .served (by simpa using hb) (by simp)
  | cons s ss ih =>
    have hsplit : done ++ s :: ss = done ++ [s] ++ ss := by simp
    rw [assembleSelectors]
    generalize hresult : r.assembleSelector b s = result
    cases hresult ▸ added_assembleSelector hb s with
    | served hb' hs =>
      rename_i b'
      change Selector.Added r done (s :: ss) (r.assembleSelectors b' ss)
      generalize hresult' : r.assembleSelectors b' ss = result'
      cases hresult' ▸ ih hb' with
      | served hb'' hss =>
        refine .served (hsplit ▸ hb'') fun f hmem => ?_
        rcases List.mem_cons.1 hmem with heq | hmem
        · exact hs f (heq ▸ List.mem_singleton_self _)
        · exact hss f hmem
      | tooLarge hmany => exact .tooLarge (hsplit ▸ hmany)
      | failed hmem he => exact .failed (List.mem_cons_of_mem _ hmem) he
    | tooLarge hmany =>
      refine .tooLarge (hmany.trans_le (Selector.constantsNeeded_le_of_sublist ?_))
      rw [hsplit]
      exact List.sublist_append_left ..
    | failed hmem he =>
      obtain rfl := List.mem_singleton.1 hmem
      exact .failed List.mem_cons_self he

end Registry

/-! ### Segments -/

/-- A builder to which a query has been added. -/
structure Builder.Built (b : Builder) (q : Query) : Prop where
  sound : b.Sound
  serves : b.Serves q.selectors
  size : b.code.size = q.instructionsNeeded
  fits : b.code.size ≤ 2 ^ 32

/-- What comes of adding segments behind others: all of it is built and all filters are
compiled, or the demands are too high, or one of the filters fails. -/
inductive Segment.Added (r : Registry) (done ss : Query) : Except CompileError Builder → Prop
  | built {b : Builder} (hb : b.Built (done ++ ss))
    (hf : ∀ s ∈ ss, ∀ f, .filter f ∈ s.selectors → ∃ c, r.assembleFilter f = .ok c) :
    Added r done ss (.ok b)
  | tooLarge {quota : Quota} (h : Query.Exceeds (done ++ ss) quota) :
    Added r done ss (.error (.tooLarge quota))
  | failed {s : Segment} {f : Filter} {e : CompileError} (hs : s ∈ ss)
    (hf : .filter f ∈ s.selectors) (h : r.assembleFilter f = .error e) :
    Added r done ss (.error e)

namespace Builder

variable {b b' : Builder} {q : Query}

lemma built_empty : Built {} [] where
  sound := sound_empty
  serves := serves_empty
  size := rfl
  fits := Nat.zero_le _

/-- What has been built fits in a program. -/
lemma Built.not_exceeds (hb : b.Built q) (quota : Quota) : ¬ q.Exceeds quota := by
  cases quota with
  | constants => exact Nat.not_lt.2 (hb.serves.size.symm.trans_le hb.serves.fits)
  | instructions => exact Nat.not_lt.2 (hb.size.symm.trans_le hb.fits)

/-- The end of a segment is one more instruction, if there is room for it. -/
lemma finishSegment_cases {start : Nat} (hblock : b.block = some start) :
    (∃ b', b.finishSegment = .ok b' ∧ b'.code.size = b.code.size + 1 ∧
        b'.constants = b.constants ∧ b'.shared = b.shared ∧ b'.code.size ≤ 2 ^ 32) ∨
      (b.finishSegment = .error (.tooLarge .instructions) ∧ 2 ^ 32 ≤ b.code.size) := by
  have hlimit : Quota.instructions.limit = 2 ^ 32 - 1 := rfl
  rw [finishSegment, closeBlock]
  simp only [append, hblock, hlimit]
  rcases Nat.lt_or_ge b.code.size (2 ^ 32) with hroom | hfull
  · rw [if_neg (by omega)]
    exact .inl ⟨_, rfl, by simp, rfl, rfl, by simp; omega⟩
  · rw [if_pos (by omega)]
    exact .inr ⟨rfl, hfull⟩

/-- The start of a segment adds instructions only, and opens its block. -/
lemma startSegment_spec (hb : b.Sound) (descendant : Bool) :
    (b.startSegment descendant).Sound ∧
      (b.startSegment descendant).constants = b.constants ∧
      (b.startSegment descendant).shared = b.shared ∧
      (b.startSegment descendant).code.size = b.code.size + (if descendant then 1 else 0) + 1 ∧
      ∃ start, (b.startSegment descendant).block = some start := by
  cases descendant with
  | false => exact ⟨hb, rfl, rfl, by simp [startSegment, openBlock, append], _, rfl⟩
  | true => exact ⟨hb, rfl, rfl, by simp [startSegment, openBlock, append], _, rfl⟩

lemma Sound.congr (hb : b.Sound) (hconstants : b'.constants = b.constants)
    (hshared : b'.shared = b.shared) : b'.Sound := by
  intro key c hc
  rw [hshared] at hc
  rw [hconstants]
  exact hb key c hc

end Builder

namespace Registry

variable {r : Registry} {b : Builder} {done : Query}

lemma added_assembleSegment (hb : b.Built done) (s : Segment) :
    Segment.Added r done [s]
      (r.assembleSelectors (b.startSegment s.descendant) s.selectors >>=
        Builder.finishSegment) := by
  obtain ⟨hsound, hconstants, hshared, hsize, start, hblock⟩ :=
    Builder.startSegment_spec hb.sound s.descendant
  have hselectors : Query.selectors (done ++ [s]) = Query.selectors done ++ s.selectors := by
    rw [Query.selectors_append]
    simp [Query.selectors]
  have hinstructions : Query.instructionsNeeded (done ++ [s]) =
      Query.instructionsNeeded done + s.instructionsNeeded := by
    rw [Query.instructionsNeeded_append]
    rfl
  have hadded := added_assembleSelectors (r := r) (hb.serves.congr hconstants hshared) s.selectors
  generalize hresult : r.assembleSelectors (b.startSegment s.descendant) s.selectors = result
    at hadded
  cases hadded with
  | @served b' hserves hf =>
    obtain ⟨body, hadds, hbody⟩ := assembleSelectors_spec hsound hresult
    have hsize' : b'.code.size + 1 = Query.instructionsNeeded (done ++ [s]) := by
      rw [size_eq hadds.code, ← hbody.length_eq, hsize, hb.size, hinstructions,
        Segment.instructionsNeeded]
      omega
    change Segment.Added r done [s] b'.finishSegment
    rcases Builder.finishSegment_cases (hadds.block.trans hblock) with
      ⟨b'', hok, hcode, hconstants', hshared', hfits⟩ | ⟨herror, hfull⟩
    · rw [hok]
      refine .built ⟨?_, ?_, hcode.trans hsize', hfits⟩ fun s' hs' => ?_
      · exact hadds.sound.congr hconstants' hshared'
      · exact hselectors ▸ hserves.congr hconstants' hshared'
      · obtain rfl := List.mem_singleton.1 hs'
        exact hf
    · rw [herror]
      have hexceeds : Query.Exceeds (done ++ [s]) .instructions := by
        rw [Query.Exceeds, ← hsize']
        omega
      exact .tooLarge hexceeds
  | tooLarge hmany =>
    have hexceeds : Query.Exceeds (done ++ [s]) .constants := by
      rw [Query.Exceeds, Query.constantsNeeded, hselectors]
      exact hmany
    exact .tooLarge hexceeds
  | failed hmem he => exact .failed (List.mem_singleton_self s) hmem he

/-- **What comes of building.** -/
theorem added_assembleSegments (hb : b.Built done) (ss : Query) :
    Segment.Added r done ss (r.assembleSegments b ss) := by
  induction ss generalizing b done with
  | nil => exact .built (by simpa using hb) (by simp)
  | cons s ss ih =>
    have hsplit : done ++ s :: ss = done ++ [s] ++ ss := by simp
    have hcons : r.assembleSegments b (s :: ss) =
        (r.assembleSelectors (b.startSegment s.descendant) s.selectors >>=
          Builder.finishSegment) >>= (r.assembleSegments · ss) := by
      cases s
      rw [assembleSegments, bind_assoc]
    rw [hcons]
    have hadded := added_assembleSegment (r := r) hb s
    generalize r.assembleSelectors (b.startSegment s.descendant) s.selectors >>=
      Builder.finishSegment = result at hadded
    cases hadded with
    | @built b' hb' hs =>
      change Segment.Added r done (s :: ss) (r.assembleSegments b' ss)
      generalize hresult' : r.assembleSegments b' ss = result'
      cases hresult' ▸ ih hb' with
      | built hb'' hss =>
        refine .built (hsplit ▸ hb'') (List.forall_mem_cons.2 ⟨?_, hss⟩)
        exact hs s (List.mem_singleton_self s)
      | tooLarge hmany => exact .tooLarge (hsplit ▸ hmany)
      | failed hmem hf he => exact .failed (List.mem_cons_of_mem _ hmem) hf he
    | tooLarge hmany =>
      refine .tooLarge (hmany.of_sublist ?_)
      rw [hsplit]
      exact List.sublist_append_left ..
    | failed hmem hf he =>
      obtain rfl := List.mem_singleton.1 hmem
      exact .failed List.mem_cons_self hf he

end Registry
end JsonQuery
