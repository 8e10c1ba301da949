import JsonQuery.Engine.Basic
import JsonQuery.Proofs.Recency

/-!
Calls of an engine, one after the other. All that an engine keeps is what compiling gives, so
each call has the answer that it would have without an engine, whatever was found, compiled,
refused or forgotten before.
-/

namespace JsonQuery

/-- What can be asked of an engine. -/
inductive Call where
  | compile (text : String)
  | query (text : String) (document : Json)
  | clear

/-- The text that a call looks up. -/
def Call.text? : Call → Option String
  | .compile text => some text
  | .query text _ => some text
  | .clear => none

/-- What a call gives. Which of two equal programs it is does not show. -/
inductive Answer where
  | program (result : Except QueryError Program)
  | nodes (result : Except QueryError (List Json))
  | cleared

/-- The answer of a call without an engine: each text is compiled anew. -/
def Registry.answer (r : Registry) : Call → Answer
  | .compile text => .program (r.prepare text)
  | .query text document => .nodes (r.query text document)
  | .clear => .cleared

namespace Engine

def answer (e : Engine) : Call → Answer
  | .compile text => .program ((e.compile text).1.map Compilation.program)
  | .query text document => .nodes (e.query text document).1
  | .clear => .cleared

/-- The engine after a call. -/
def serve (e : Engine) : Call → Engine
  | .compile text => (e.compile text).2
  | .query text document => (e.query text document).2
  | .clear => e.clear

/-- The answers of calls, one after the other. -/
def answers (e : Engine) : List Call → List Answer
  | [] => []
  | call :: calls => e.answer call :: (e.serve call).answers calls

/-- The engine after calls, one after the other. -/
def after (e : Engine) (calls : List Call) : Engine := calls.foldl serve e

variable {e : Engine}

/-! ### One call -/

/-- What can come of looking a text up. -/
inductive Looked (e : Engine) (text : String) : Except QueryError Compilation × Engine → Prop
  | found {compilation : Compilation} (hkeeps : e.capacities.keepsPrograms = true)
    (h : (text, compilation) ∈ e.kept.entries) :
    Looked e text (.ok compilation,
      { e with kept := e.kept.insert text compilation, hits := e.hits + 1 })
  | compiled {program : Program} (hkeeps : e.capacities.keepsPrograms = true)
    (h : text ∉ e.kept.keys) (hp : e.registry.prepare text = .ok program) :
    Looked e text (.ok ⟨e.compilations, program⟩,
      { e with
        kept := e.kept.insert text ⟨e.compilations, program⟩
        misses := e.misses + 1
        compilations := e.compilations + 1 })
  | refused {error : QueryError} (hkeeps : e.capacities.keepsPrograms = true)
    (h : text ∉ e.kept.keys) (hp : e.registry.prepare text = .error error) :
    Looked e text (.error error, { e with misses := e.misses + 1 })
  | uncached {program : Program} (hkeeps : e.capacities.keepsPrograms = false)
    (hp : e.registry.prepare text = .ok program) :
    Looked e text (.ok ⟨e.compilations, program⟩, { e with compilations := e.compilations + 1 })
  | uncachedRefused {error : QueryError} (hkeeps : e.capacities.keepsPrograms = false)
    (hp : e.registry.prepare text = .error error) : Looked e text (.error error, e)

lemma looked_compile (e : Engine) (text : String) : e.Looked text (e.compile text) := by
  rw [compile]
  split_ifs with hkeeps
  · split
    · rename_i compilation kept hfound
      obtain ⟨hmem, rfl⟩ := Lru.get?_eq_some hfound
      exact .found hkeeps hmem
    · rename_i hmissing
      have hnot := Lru.get?_eq_none_iff.1 hmissing
      rw [compileAnew]
      cases hp : e.registry.prepare text with
      | error error => exact .refused hkeeps hnot hp
      | ok program => exact .compiled hkeeps hnot hp
  · have hkeeps : e.capacities.keepsPrograms = false := by simpa using hkeeps
    rw [compileAnew]
    cases hp : e.registry.prepare text with
    | error error => exact .uncachedRefused hkeeps hp
    | ok program => exact .uncached hkeeps hp

/-- A call that looks up a text leaves what looking it up leaves. -/
lemma serve_of_text? (e : Engine) {call : Call} {text : String} (h : call.text? = some text) :
    e.serve call = (e.compile text).2 := by
  cases call <;> cases h <;> rfl

lemma serve_of_text?_eq_none (e : Engine) {call : Call} (h : call.text? = none) :
    e.serve call = e.clear := by
  cases call <;> cases h
  rfl

/-- Engines with the same registry and the same room. -/
structure Alike (e e' : Engine) : Prop where
  registry : e'.registry = e.registry
  capacities : e'.capacities = e.capacities
  room : e'.kept.capacity = e.kept.capacity

/-- No call changes how an engine was set up. -/
lemma alike_serve (e : Engine) (call : Call) : e.Alike (e.serve call) := by
  cases htext : call.text? with
  | none =>
    rw [serve_of_text?_eq_none e htext]
    exact ⟨rfl, rfl, rfl⟩
  | some text =>
    rw [serve_of_text? e htext]
    have h := e.looked_compile text
    generalize e.compile text = result at h
    cases h <;> exact ⟨rfl, rfl, rfl⟩

/-! ### What is kept -/

/-- Every program that is kept is what its text is compiled to. -/
def Faithful (e : Engine) : Prop :=
  ∀ entry ∈ e.kept.entries, e.registry.prepare entry.1 = .ok entry.2.program

lemma faithful_new (r : Registry) (c : Capacities) : (new r c).Faithful := by
  intro entry hentry
  cases hentry

/-- What looking a text up gives is what compiling it gives. -/
lemma Faithful.compile (he : e.Faithful) (text : String) :
    (e.compile text).1.map Compilation.program = e.registry.prepare text ∧
      (e.compile text).2.Faithful := by
  have h := e.looked_compile text
  generalize e.compile text = result at h
  cases h with
  | found _ hmem =>
    refine ⟨(he _ hmem).symm, fun entry hentry => ?_⟩
    rcases Lru.mem_entries_insert hentry with rfl | ⟨hentry, -⟩
    · exact he _ hmem
    · exact he entry hentry
  | compiled _ _ hp =>
    refine ⟨hp.symm, fun entry hentry => ?_⟩
    rcases Lru.mem_entries_insert hentry with rfl | ⟨hentry, -⟩
    · exact hp
    · exact he entry hentry
  | refused _ _ hp => exact ⟨hp.symm, he⟩
  | uncached _ hp => exact ⟨hp.symm, he⟩
  | uncachedRefused _ hp => exact ⟨hp.symm, he⟩

/-- A call has the answer that it has without an engine. -/
lemma Faithful.answer (he : e.Faithful) (call : Call) : e.answer call = e.registry.answer call := by
  cases call with
  | compile text => rw [Engine.answer, (he.compile text).1, Registry.answer]
  | query text document =>
    have hquery : (e.query text document).1 =
        (e.compile text).1.map fun compilation => compilation.program.run document := rfl
    rw [Engine.answer, Registry.answer, Registry.query, ← (he.compile text).1, hquery]
    cases (e.compile text).1 <;> rfl
  | clear => rfl

lemma Faithful.serve (he : e.Faithful) (call : Call) : (e.serve call).Faithful := by
  cases h : call.text? with
  | none =>
    rw [serve_of_text?_eq_none e h]
    intro entry hentry
    cases hentry
  | some text =>
    rw [serve_of_text? e h]
    exact (he.compile text).2

lemma Faithful.answers (he : e.Faithful) (calls : List Call) :
    e.answers calls = calls.map e.registry.answer := by
  induction calls generalizing e with
  | nil => rfl
  | cons call calls ih =>
    rw [Engine.answers, he.answer, ih (he.serve call), (alike_serve e call).registry, List.map_cons]

/-- **An engine keeps programs without a trace in its answers.** Whatever the registry, the
capacities and the calls, each compilation gives the program or the error that compiling the
text gives, and each query what the query gives without an engine. -/
theorem answers_eq (r : Registry) (c : Capacities) (calls : List Call) :
    (new r c).answers calls = calls.map r.answer :=
  (faithful_new r c).answers calls

end Engine
end JsonQuery
