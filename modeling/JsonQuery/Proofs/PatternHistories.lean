import JsonQuery.Engine.PatternCache
import JsonQuery.Proofs.Recency

/-!
Calls of a cache of regular expressions, one after the other. `match` and `search` share it, and
it knows patterns only by the text that is read, so what one of them has left can be found by
the other. Still each call has the answer that it has if the pattern is read anew: all that is
kept is what its own text is read as. No more is kept than there is room for.
-/

namespace JsonQuery

/-- What can be asked of a cache of regular expressions. -/
inductive PatternCall where
  | get (pattern : String)
  | evaluate (use : PatternUse) (args : List Value)
  | clear

/-- What a call gives. -/
inductive PatternAnswer where
  | regex (result : Option Regex)
  | value (result : Value)
  | cleared

namespace PatternCall

/-- The pattern that a call looks up, as it is read. -/
def pattern? : PatternCall → Option String
  | .get pattern => some pattern
  | .evaluate use args => (Builtin.patternArgs use args).map (·.2)
  | .clear => none

/-- The answer of a call without a cache: each pattern is read anew. -/
def answer : PatternCall → PatternAnswer
  | .get pattern => .regex (Regex.parse? pattern)
  | .evaluate use args => .value ((Builtin.pattern use).evaluate args)
  | .clear => .cleared

end PatternCall

namespace PatternCache

def answer (c : PatternCache) : PatternCall → PatternAnswer
  | .get pattern => .regex (c.get pattern).1
  | .evaluate use args => .value (c.evaluate use args).1
  | .clear => .cleared

/-- The cache after a call. -/
def serve (c : PatternCache) : PatternCall → PatternCache
  | .get pattern => (c.get pattern).2
  | .evaluate use args => (c.evaluate use args).2
  | .clear => c.clear

/-- The answers of calls, one after the other. -/
def answers (c : PatternCache) : List PatternCall → List PatternAnswer
  | [] => []
  | call :: calls => c.answer call :: (c.serve call).answers calls

/-- The cache after calls, one after the other. -/
def after (c : PatternCache) (calls : List PatternCall) : PatternCache := calls.foldl serve c

/-- The cache after a use of a pattern, said without asking what is kept: a valid pattern comes
in front of all others, and one that is not valid leaves no trace. -/
def used (c : PatternCache) (pattern : String) : PatternCache :=
  match Regex.parse? pattern with
  | some regex => ⟨c.regexes.insert pattern regex⟩
  | none => c

/-- A cache in which every expression is what its own text is read as, with no more of them than
there is room for. -/
structure Sound (room : Nat) (c : PatternCache) : Prop where
  read : ∀ entry ∈ c.regexes.entries, Regex.parse? entry.1 = some entry.2
  capacity : c.capacity = room
  fits : c.size ≤ room

variable {room : Nat} {c : PatternCache}

/-! ### One call -/

lemma sound_of_no_entries (hcapacity : c.capacity = room) (h : c.regexes.entries = []) :
    c.Sound room where
  read := by simp [h]
  capacity := hcapacity
  fits := by simp [size, Lru.size, h]

lemma used_of_valid {pattern : String} {regex : Regex} (h : Regex.parse? pattern = some regex) :
    c.used pattern = ⟨c.regexes.insert pattern regex⟩ := by
  rw [used, h]

lemma used_of_invalid {pattern : String} (h : Regex.parse? pattern = none) :
    c.used pattern = c := by
  rw [used, h]

/-- What is found is what would be read, and finding it leaves what reading it leaves. -/
lemma Sound.get_eq (hc : c.Sound room) (pattern : String) :
    c.get pattern = (Regex.parse? pattern, c.used pattern) := by
  rw [get]
  split
  · -- What is kept under a text is what reading that text gives.
    rename_i regex regexes hfound
    obtain ⟨hmem, rfl⟩ := Lru.get?_eq_some hfound
    have hread : Regex.parse? pattern = some regex := hc.read _ hmem
    rw [used_of_valid hread, hread]
  · split
    · rename_i regex hread
      rw [used_of_valid hread, hread]
    · rename_i hread
      rw [used_of_invalid hread, hread]

lemma Sound.used (hc : c.Sound room) (pattern : String) : (c.used pattern).Sound room := by
  cases hread : Regex.parse? pattern with
  | none => rwa [used_of_invalid hread]
  | some regex =>
    rw [used_of_valid hread]
    refine ⟨fun entry hentry => ?_, hc.capacity, ?_⟩
    · rcases Lru.mem_entries_insert hentry with rfl | ⟨hentry, -⟩
      · exact hread
      · exact hc.read entry hentry
    · rw [← hc.capacity]
      exact List.length_take_le _ _

/-- A call that looks up a pattern is a use of it. -/
lemma Sound.serve_of_pattern? (hc : c.Sound room) {call : PatternCall} {pattern : String}
    (h : call.pattern? = some pattern) : c.serve call = c.used pattern := by
  cases call with
  | get pattern' =>
    cases h
    rw [PatternCache.serve, hc.get_eq]
  | evaluate use args =>
    obtain ⟨⟨text, pattern'⟩, hargs, rfl⟩ := Option.map_eq_some_iff.1 h
    rw [PatternCache.serve, PatternCache.evaluate, hargs]
    dsimp only
    rw [hc.get_eq]
  | clear => cases h

lemma Sound.serve (hc : c.Sound room) (call : PatternCall) : (c.serve call).Sound room := by
  cases h : call.pattern? with
  | some pattern =>
    rw [hc.serve_of_pattern? h]
    exact hc.used pattern
  | none =>
    cases call with
    | get pattern => cases h
    | evaluate use args =>
      rw [PatternCache.serve, PatternCache.evaluate, Option.map_eq_none_iff.1 h]
      exact hc
    | clear => exact sound_of_no_entries hc.capacity rfl

/-- A call has the answer that it has without a cache. -/
lemma Sound.answer (hc : c.Sound room) (call : PatternCall) : c.answer call = call.answer := by
  cases call with
  | get pattern => rw [PatternCache.answer, PatternCall.answer, hc.get_eq]
  | evaluate use args =>
    have hvalue : (c.evaluate use args).1 = Builtin.matchOf use args := by
      rw [PatternCache.evaluate, Builtin.matchOf]
      cases Builtin.patternArgs use args with
      | none => rfl
      | some found => simp only [hc.get_eq]
    rw [PatternCache.answer, PatternCall.answer, hvalue]
    rfl
  | clear => rfl

/-! ### Calls in a row -/

lemma Sound.answers (hc : c.Sound room) (calls : List PatternCall) :
    c.answers calls = calls.map PatternCall.answer := by
  induction calls generalizing c with
  | nil => rfl
  | cons call calls ih =>
    rw [PatternCache.answers, hc.answer, ih (hc.serve call), List.map_cons]

lemma Sound.after (hc : c.Sound room) (calls : List PatternCall) : (c.after calls).Sound room := by
  induction calls generalizing c with
  | nil => exact hc
  | cons call calls ih => exact ih (hc.serve call)

lemma sound_ofCapacity (capacity : Nat) : (ofCapacity capacity).Sound (max 1 capacity) :=
  sound_of_no_entries rfl rfl

/-- **A cache of regular expressions shows in no answer, and keeps to its room.** Whatever the
capacity and the calls, each pattern is what reading it gives, and each evaluation of `match` or
`search` gives what it gives if the pattern is read anew. After them, all that is kept are valid
patterns under their own texts, no more than the capacity, which is one at least; a call whose
pattern is not valid changes nothing, and one whose pattern is valid leaves it in front. -/
theorem answers_and_room (capacity : Nat) (calls : List PatternCall) :
    (ofCapacity capacity).answers calls = calls.map PatternCall.answer ∧
      let c := (ofCapacity capacity).after calls
      (∀ entry ∈ c.regexes.entries, Regex.parse? entry.1 = some entry.2) ∧
      c.size ≤ max 1 capacity ∧
      ∀ call pattern, call.pattern? = some pattern →
        (Regex.parse? pattern = none → c.serve call = c) ∧
        ∀ regex, Regex.parse? pattern = some regex →
          (c.serve call).regexes.entries.head? = some (pattern, regex) := by
  have hstart := sound_ofCapacity capacity
  refine ⟨hstart.answers calls, ?_⟩
  intro c
  have hc : c.Sound (max 1 capacity) := hstart.after calls
  refine ⟨hc.read, hc.fits, fun call pattern hcall => ?_⟩
  rw [hc.serve_of_pattern? hcall]
  refine ⟨used_of_invalid, fun regex hread => ?_⟩
  have hroom : c.regexes.capacity ≠ 0 := by
    have hcapacity : c.regexes.capacity = max 1 capacity := hc.capacity
    omega
  rw [used_of_valid hread, Lru.insert, List.head?_take, if_neg hroom, List.head?_cons]

end PatternCache
end JsonQuery
