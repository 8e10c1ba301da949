import JsonQuery.Proofs.Demands

/-!
Calls of a builder, one after the other. Constants are only ever added at the end, so a number
that was given for a constant leads to it from then on. The numbers of shared constants and the
constants at these numbers tell the same, which is why no shared constant is held twice.
-/

namespace JsonQuery

/-- What can be asked of a builder. -/
inductive BuilderCall where
  | intern (constant : Constant)
  | append (instruction : Instruction)
  | openBlock
  | closeBlock

lemma Constant.shared?_eq_none_iff (k : Constant) : k.shared? = none ↔ k.kind = .filter := by
  cases k <;> simp [Constant.shared?, Constant.kind]

namespace Builder

/-- What a call gives: the number of a constant or of an instruction. -/
def answer (b : Builder) : BuilderCall → Except CompileError Nat
  | .intern constant => (b.intern constant).1
  | .append instruction => .ok (b.append instruction).1
  | .openBlock => .ok b.openBlock.1
  | .closeBlock => b.closeBlock.1

/-- The builder after a call. -/
def serve (b : Builder) : BuilderCall → Builder
  | .intern constant => (b.intern constant).2
  | .append instruction => (b.append instruction).2
  | .openBlock => b.openBlock.2
  | .closeBlock => b.closeBlock.2

/-- A fresh builder after calls, one after the other. -/
def built (history : List BuilderCall) : Builder := history.foldl serve {}

/-- In the course of a history, a constant was added and this number given for it. -/
inductive Given (constant : Constant) (c : Nat) : List BuilderCall → Prop
  | now {history : List BuilderCall}
    (h : (built history).answer (.intern constant) = .ok c) :
    Given constant c (history ++ [.intern constant])
  | before {history : List BuilderCall} (h : Given constant c history) (call : BuilderCall) :
    Given constant c (history ++ [call])

/-- A builder that finds each shared constant where it is, and holds no more constants than
operands can tell apart. -/
structure Pooled (b : Builder) : Prop where
  sound : b.Sound
  complete : ∀ (c : Nat) (constant : Constant) (key : SharedConstant),
    b.constants[c]? = some constant → constant.shared? = some key → b.shared[key]? = some c
  fits : b.constants.size ≤ 2 ^ 16

variable {b : Builder} {history : List BuilderCall} {constant : Constant} {c : Nat}

lemma built_append_singleton (history : List BuilderCall) (call : BuilderCall) :
    built (history ++ [call]) = (built history).serve call := by
  rw [built, List.foldl_append]
  rfl

/-! ### One call -/

/-- Only an addition of a constant touches the constants. -/
lemma constants_serve_eq (b : Builder) {call : BuilderCall} (h : ∀ k, call ≠ .intern k) :
    (b.serve call).constants = b.constants ∧ (b.serve call).shared = b.shared := by
  cases call with
  | intern k => exact absurd rfl (h k)
  | append i => exact ⟨rfl, rfl⟩
  | openBlock => exact ⟨rfl, rfl⟩
  | closeBlock =>
    rw [serve, closeBlock]
    cases hblock : b.block <;> simp only [append, hblock] <;> split_ifs <;> exact ⟨rfl, rfl⟩

lemma intern_eq_of_ok (h : b.answer (.intern constant) = .ok c) :
    b.intern constant = (.ok c, b.serve (.intern constant)) :=
  Prod.ext h rfl

/-- Constants stay where they are. -/
lemma constants_isPrefix_serve (b : Builder) (call : BuilderCall) :
    b.constants.toList <+: (b.serve call).constants.toList := by
  cases call with
  | intern k =>
    rw [serve]
    rcases b.intern_cases k with ⟨_, _, -, -, h⟩ | ⟨-, ⟨-, h⟩ | ⟨-, h⟩⟩ <;> rw [h]
    simp [push]
  | _ => rw [(b.constants_serve_eq (by simp)).1]

lemma pooled_empty : Pooled {} where
  sound := sound_empty
  complete c constant key h := by simp at h
  fits := by simp

/-- A shared constant is not new if it is among the constants. -/
lemma Pooled.mem_shared_iff (hb : b.Pooled) {key : SharedConstant}
    (hkey : constant.shared? = some key) : key ∈ b.shared ↔ constant ∈ b.constants := by
  rw [Std.HashMap.mem_iff_isSome_getElem?, Option.isSome_iff_exists, Array.mem_iff_getElem?]
  refine exists_congr fun c => ⟨fun h => ?_, fun h => hb.complete c constant key h hkey⟩
  obtain ⟨k, hk, hshared⟩ := hb.sound key c h
  rwa [Constant.shared?_injective hshared hkey] at hk

/-- The new constant is found under its own key, and every other one as before. -/
lemma Pooled.push (hb : b.Pooled) (hsound : (b.push constant).Sound)
    (hnew : ∀ key, constant.shared? = some key → key ∉ b.shared)
    (hroom : b.constants.size < 2 ^ 16) : (b.push constant).Pooled where
  sound := hsound
  complete c k key hc hkey := by
    rcases Nat.lt_or_ge c b.constants.size with hlt | hge
    · have hold : b.constants[c]? = some k := by
        rwa [Builder.push, Array.getElem?_push_lt hlt, ← Array.getElem?_eq_getElem hlt] at hc
      have hfound := hb.complete c k key hold hkey
      cases hown : constant.shared? with
      | none => simpa [Builder.push, hown] using hfound
      | some own =>
        have hne : own ≠ key := by
          rintro rfl
          refine hnew own hown ?_
          rw [Std.HashMap.mem_iff_isSome_getElem?, hfound]
          rfl
        simpa [Builder.push, hown, Std.HashMap.getElem?_insert, hne] using hfound
    · have hsize : (b.push constant).constants.size = b.constants.size + 1 := Array.size_push ..
      have hlt := (Array.getElem?_eq_some_iff.1 hc).1
      obtain rfl : c = b.constants.size := by omega
      obtain rfl : constant = k := by simpa [Builder.push] using hc
      simp [Builder.push, hkey]
  fits := by
    have hsize : (b.push constant).constants.size = b.constants.size + 1 := Array.size_push ..
    omega

lemma Pooled.serve (hb : b.Pooled) (call : BuilderCall) : (b.serve call).Pooled := by
  cases call with
  | intern k =>
    rcases b.intern_cases k with ⟨_, _, -, -, h⟩ | ⟨hnew, ⟨-, h⟩ | ⟨hroom, h⟩⟩
    · rw [Builder.serve, h]
      exact hb
    · rw [Builder.serve, h]
      exact hb
    · rw [Builder.serve, h]
      exact hb.push (intern_spec hb.sound h).1.sound hnew hroom
  | append i => exact ⟨hb.sound, hb.complete, hb.fits⟩
  | openBlock => exact ⟨hb.sound, hb.complete, hb.fits⟩
  | closeBlock =>
    have hcall (k : Constant) : BuilderCall.closeBlock ≠ .intern k := nofun
    obtain ⟨hconstants, hshared⟩ := b.constants_serve_eq hcall
    refine ⟨?_, ?_, ?_⟩
    · rw [Sound, hconstants, hshared]
      exact hb.sound
    · rw [hconstants, hshared]
      exact hb.complete
    · rw [hconstants]
      exact hb.fits

/-- The constant stands at the number that is given for it. -/
lemma Pooled.getElem?_of_answer (hb : b.Pooled) (h : b.answer (.intern constant) = .ok c) :
    (b.serve (.intern constant)).constants.toList[c]? = some constant :=
  (intern_spec hb.sound (intern_eq_of_ok h)).2

/-- A constant that is not shared is put behind all others. -/
lemma eq_size_of_answer (hshared : constant.shared? = none)
    (h : b.answer (.intern constant) = .ok c) : c = b.constants.size := by
  rw [answer] at h
  rcases b.intern_cases constant with ⟨_, _, hkey, -, -⟩ | ⟨-, ⟨-, heq⟩ | ⟨-, heq⟩⟩
  · cases hshared.symm.trans hkey
  · rw [heq] at h
    cases h
  · rw [heq] at h
    cases h
    rfl

/-! ### Calls in a row -/

lemma pooled_built (history : List BuilderCall) : (built history).Pooled := by
  induction history using List.reverseRecOn with
  | nil => exact pooled_empty
  | append_singleton history call ih =>
    rw [built_append_singleton]
    exact ih.serve call

/-- **A number that was given leads to the constant from then on.** -/
lemma Given.getElem? (h : Given constant c history) :
    (built history).constants.toList[c]? = some constant := by
  induction h with
  | @now history h =>
    rw [built_append_singleton]
    exact (pooled_built history).getElem?_of_answer h
  | before _ call ih =>
    rw [built_append_singleton]
    exact getElem?_of_isPrefix (constants_isPrefix_serve _ call) ih

/-- A shared constant is held once. -/
lemma Pooled.eq_of_getElem? (hb : b.Pooled) {d : Nat} (hkind : constant.kind ≠ .filter)
    (hc : b.constants[c]? = some constant) (hd : b.constants[d]? = some constant) : c = d := by
  obtain ⟨key, hkey⟩ := Option.ne_none_iff_exists'.1 (mt constant.shared?_eq_none_iff.1 hkind)
  exact Option.some.inj ((hb.complete c constant key hc hkey).symm.trans
    (hb.complete d constant key hd hkey))

/-- **Numbers tell constants apart.** An addition is given the number of an earlier one exactly
if it adds the same constant and that is no filter. -/
lemma Given.eq_iff (h : Given constant c history) {constant' : Constant} {d : Nat}
    (h' : (built history).answer (.intern constant') = .ok d) :
    d = c ↔ constant' = constant ∧ constant.kind ≠ .filter := by
  have hold := h.getElem?
  have hlast := (h.before (.intern constant')).getElem?
  have hnew := (Given.now h').getElem?
  constructor
  · rintro rfl
    obtain rfl := Option.some.inj (hnew.symm.trans hlast)
    refine ⟨rfl, fun hkind => ?_⟩
    -- a filter is put behind the constants, where no number given before can lead
    have hsize := eq_size_of_answer (constant'.shared?_eq_none_iff.2 hkind) h'
    have hlt := (List.getElem?_eq_some_iff.1 hold).1
    rw [Array.length_toList] at hlt
    omega
  · rintro ⟨rfl, hkind⟩
    rw [Array.getElem?_toList] at hlast hnew
    exact (pooled_built _).eq_of_getElem? hkind hnew hlast

/-- **There is no room.** An addition is refused only for want of room, and then changes
nothing. -/
lemma Pooled.answer_eq_error_iff (hb : b.Pooled) {e : CompileError} :
    b.answer (.intern constant) = .error e ↔ e = .tooLarge .constants ∧
      b.constants.size = 2 ^ 16 ∧ (constant.kind = .filter ∨ constant ∉ b.constants) := by
  have hknown : (∀ key, constant.shared? = some key → key ∉ b.shared) ↔
      (constant.kind = .filter ∨ constant ∉ b.constants) := by
    rw [← constant.shared?_eq_none_iff]
    cases hshared : constant.shared? with
    | none => simp
    | some key => simp [hb.mem_shared_iff hshared]
  rw [answer]
  rcases b.intern_cases constant with ⟨key, d, hkey, hmem, h⟩ | ⟨hnew, ⟨hfull, h⟩ | ⟨hroom, h⟩⟩
  · rw [h]
    refine ⟨fun heq => (nomatch heq), fun ⟨_, _, hunknown⟩ => ?_⟩
    exact absurd hmem (hknown.2 hunknown key hkey)
  · rw [h]
    constructor
    · intro heq
      cases heq
      exact ⟨rfl, le_antisymm hb.fits hfull, hknown.1 hnew⟩
    · rintro ⟨rfl, -⟩
      rfl
  · rw [h]
    exact ⟨fun heq => (nomatch heq), fun ⟨_, hfull, _⟩ => absurd hfull hroom.ne⟩

lemma serve_eq_of_error {e : CompileError} (h : b.answer (.intern constant) = .error e) :
    b.serve (.intern constant) = b := by
  rw [answer] at h
  rw [serve]
  rcases b.intern_cases constant with ⟨_, _, -, -, heq⟩ | ⟨-, ⟨-, heq⟩ | ⟨-, heq⟩⟩
  · rw [heq]
  · rw [heq]
  · rw [heq] at h
    cases h

end Builder
end JsonQuery
