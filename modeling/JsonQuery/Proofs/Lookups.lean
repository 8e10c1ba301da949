import JsonQuery.Proofs.Histories
import Mathlib.Data.List.DropRight

/-!
Lookups in the course of a history of calls. A program is found for the texts that were used
last, and for no others; it is the program that was compiled when the text was last missed.
-/

namespace JsonQuery

/-- The texts of the calls since the programs were last forgotten, as far as they compile. -/
def Registry.used (r : Registry) (history : List Call) : List String :=
  ((history.rtakeWhile (·.text?.isSome)).filterMap Call.text?).filter
    fun text => (r.prepare text).isOk

/-- The texts whose programs are there to be found, the most recently used first. -/
def Registry.remembered (r : Registry) (capacity : Nat) (history : List Call) : List String :=
  (recent (r.used history)).take capacity

/-- The number of calls that look a text up. -/
def lookups (history : List Call) : Nat := history.countP (·.text?.isSome)

section Histories

variable {r : Registry} {history : List Call} {call : Call} {text : String}

lemma Registry.used_forgotten (h : call.text? = none) : r.used (history ++ [call]) = [] := by
  rw [used, List.rtakeWhile_concat_neg _ _ _ (by simp [h])]
  rfl

lemma Registry.used_ok {program : Program} (h : call.text? = some text)
    (hp : r.prepare text = .ok program) :
    r.used (history ++ [call]) = r.used history ++ [text] := by
  rw [used, List.rtakeWhile_concat_pos _ _ _ (by simp [h]), List.filterMap_append,
    List.filter_append]
  simp [used, h, hp, Except.isOk, Except.toBool]

lemma Registry.used_error {error : QueryError} (h : call.text? = some text)
    (hp : r.prepare text = .error error) : r.used (history ++ [call]) = r.used history := by
  rw [used, List.rtakeWhile_concat_pos _ _ _ (by simp [h]), List.filterMap_append,
    List.filter_append]
  simp [used, h, hp, Except.isOk, Except.toBool]

lemma lookups_append_singleton (history : List Call) (call : Call) :
    lookups (history ++ [call]) = lookups history + if call.text?.isSome then 1 else 0 := by
  rw [lookups, List.countP_append, List.countP_singleton]
  rfl

end Histories

namespace Engine

variable {start e : Engine} {history : List Call} {call : Call} {text : String}

/-! ### What the counts tell of a call -/

/-- A program was found: this is what the counts show. -/
def Hits (e : Engine) (call : Call) : Prop :=
  (e.serve call).counts.hits = e.counts.hits + 1 ∧
    (e.serve call).counts.misses = e.counts.misses

/-- A program had to be compiled: this is what the counts show. -/
def Misses (e : Engine) (call : Call) : Prop :=
  (e.serve call).counts.hits = e.counts.hits ∧
    (e.serve call).counts.misses = e.counts.misses + 1

lemma Hits.not_misses (h : e.Hits call) : ¬ e.Misses call := by
  intro hmisses
  have heq := h.1.symm.trans hmisses.1
  omega

lemma hits_of_mem (hkeeps : e.capacities.keepsPrograms = true) (h : call.text? = some text)
    (hmem : text ∈ e.kept.keys) : e.Hits call := by
  rw [Hits, e.serve_of_text? h]
  have hl := e.looked_compile text
  generalize e.compile text = result at hl
  cases hl with
  | found => exact ⟨rfl, rfl⟩
  | compiled _ hnot | refused _ hnot => exact absurd hmem hnot
  | uncached hnone | uncachedRefused hnone => cases hkeeps.symm.trans hnone

lemma misses_of_notMem (hkeeps : e.capacities.keepsPrograms = true) (h : call.text? = some text)
    (hnot : text ∉ e.kept.keys) : e.Misses call := by
  rw [Misses, e.serve_of_text? h]
  have hl := e.looked_compile text
  generalize e.compile text = result at hl
  cases hl with
  | found _ hmem => exact absurd (List.mem_map_of_mem hmem) hnot
  | compiled | refused => exact ⟨rfl, rfl⟩
  | uncached hnone | uncachedRefused hnone => cases hkeeps.symm.trans hnone

lemma hits_iff (hkeeps : e.capacities.keepsPrograms = true) (h : call.text? = some text) :
    e.Hits call ↔ text ∈ e.kept.keys :=
  ⟨fun hhits => by_contra fun hnot => hhits.not_misses (misses_of_notMem hkeeps h hnot),
    hits_of_mem hkeeps h⟩

lemma misses_iff (hkeeps : e.capacities.keepsPrograms = true) (h : call.text? = some text) :
    e.Misses call ↔ text ∉ e.kept.keys :=
  ⟨fun hmisses hmem => (hits_of_mem hkeeps h hmem).not_misses hmisses,
    misses_of_notMem hkeeps h⟩

lemma counts_serve (hkeeps : e.capacities.keepsPrograms = true) (call : Call) :
    (e.serve call).counts.hits + (e.serve call).counts.misses =
      e.counts.hits + e.counts.misses + if call.text?.isSome then 1 else 0 := by
  cases htext : call.text? with
  | none =>
    rw [serve_of_text?_eq_none e htext]
    rfl
  | some text =>
    by_cases hmem : text ∈ e.kept.keys
    · obtain ⟨hhits, hmisses⟩ := hits_of_mem hkeeps htext hmem
      rw [hhits, hmisses, Option.isSome_some, if_pos rfl]
      omega
    · obtain ⟨hhits, hmisses⟩ := misses_of_notMem hkeeps htext hmem
      rw [hhits, hmisses, Option.isSome_some, if_pos rfl, Nat.add_assoc]

/-- Without room for programs nothing is counted. -/
lemma counts_serve_of_uncached (hkeeps : e.capacities.keepsPrograms = false)
    (hcounts : e.counts = ⟨0, 0, 0⟩) (call : Call) : (e.serve call).counts = ⟨0, 0, 0⟩ := by
  cases htext : call.text? with
  | none =>
    have hhits : e.hits = 0 := congrArg CacheCounts.hits hcounts
    have hmisses : e.misses = 0 := congrArg CacheCounts.misses hcounts
    rw [serve_of_text?_eq_none e htext, counts, clear, hhits, hmisses]
    rfl
  | some text =>
    rw [e.serve_of_text? htext]
    have hl := e.looked_compile text
    generalize e.compile text = result at hl
    cases hl with
    | found hsome | compiled hsome | refused hsome => cases hkeeps.symm.trans hsome
    | uncached | uncachedRefused => exact hcounts

/-! ### What is kept after a call -/

/-- A call leaves the programs of the texts that were used last. -/
lemma Faithful.reflects_serve {r : Registry} (he : e.Faithful) (hr : e.registry = r)
    (hkeeps : e.capacities.keepsPrograms = true) (h : e.kept.Reflects (r.used history))
    (call : Call) : (e.serve call).kept.Reflects (r.used (history ++ [call])) := by
  subst hr
  cases htext : call.text? with
  | none =>
    rw [serve_of_text?_eq_none e htext, Registry.used_forgotten htext]
    exact Lru.reflects_clear e.kept
  | some text =>
    rw [e.serve_of_text? htext]
    have hl := e.looked_compile text
    generalize e.compile text = result at hl
    cases hl with
    | found _ hmem =>
      have hp := he _ hmem
      rw [Registry.used_ok htext hp]
      exact h.insert text _
    | compiled _ _ hp =>
      rw [Registry.used_ok htext hp]
      exact h.insert text _
    | refused _ _ hp =>
      rw [Registry.used_error htext hp]
      exact h
    | uncached hnone | uncachedRefused hnone => cases hkeeps.symm.trans hnone

/-- A text that does not compile is not kept, and looking it up leaves all as it was. -/
lemma Faithful.kept_serve_of_error (he : e.Faithful) {error : QueryError}
    (htext : call.text? = some text) (hp : e.registry.prepare text = .error error) :
    text ∉ e.kept.keys ∧ (e.serve call).kept = e.kept := by
  have hnot : ∀ compilation, (text, compilation) ∉ e.kept.entries := by
    intro compilation hmem
    have hok := he _ hmem
    cases hp.symm.trans hok
  refine ⟨fun hmem => ?_, ?_⟩
  · obtain ⟨⟨text, compilation⟩, hentry, rfl⟩ := List.mem_map.1 hmem
    exact hnot compilation hentry
  · rw [e.serve_of_text? htext]
    have hl := e.looked_compile text
    generalize e.compile text = result at hl
    cases hl with
    | found _ hmem => exact absurd hmem (hnot _)
    | compiled _ _ hok => cases hp.symm.trans hok
    | refused | uncached | uncachedRefused => rfl

lemma exists_compile_of_mem (hkeeps : e.capacities.keepsPrograms = true)
    (hmem : text ∈ e.kept.keys) :
    ∃ compilation, (text, compilation) ∈ e.kept.entries ∧
      (e.compile text).1 = .ok compilation := by
  have hl := e.looked_compile text
  generalize e.compile text = result at hl
  cases hl with
  | found _ hentry => exact ⟨_, hentry, rfl⟩
  | compiled _ hnot | refused _ hnot => exact absurd hmem hnot
  | uncached hnone | uncachedRefused hnone => cases hkeeps.symm.trans hnone

/-! ### The numbers of compilations -/

lemma compilations_le_serve (e : Engine) (call : Call) :
    e.compilations ≤ (e.serve call).compilations := by
  cases htext : call.text? with
  | none => rw [serve_of_text?_eq_none e htext]; exact le_rfl
  | some text =>
    rw [e.serve_of_text? htext]
    have hl := e.looked_compile text
    generalize e.compile text = result at hl
    cases hl with
    | compiled | uncached => exact Nat.le_succ _
    | found | refused | uncachedRefused => exact le_rfl

/-- What a lookup gives was kept, or is the next compilation. -/
lemma mem_or_number_of_compile {compilation : Compilation}
    (h : (e.compile text).1 = .ok compilation) :
    (text, compilation) ∈ e.kept.entries ∨
      compilation.number = e.compilations ∧
        (e.compile text).2.compilations = e.compilations + 1 := by
  have hl := e.looked_compile text
  generalize e.compile text = result at hl h
  cases hl with
  | found _ hmem => cases h; exact .inl hmem
  | compiled | uncached => cases h; exact .inr ⟨rfl, rfl⟩
  | refused | uncachedRefused => cases h

/-! ### Programs in the course of a history -/

lemma after_append_singleton (start : Engine) (history : List Call) (call : Call) :
    start.after (history ++ [call]) = (start.after history).serve call :=
  List.foldl_append ..

lemma alike_after (start : Engine) (history : List Call) : start.Alike (start.after history) := by
  induction history using List.reverseRecOn with
  | nil => exact ⟨rfl, rfl, rfl⟩
  | append_singleton history call ih =>
    have hserve := (start.after history).alike_serve call
    rw [after_append_singleton]
    exact ⟨hserve.registry.trans ih.registry, hserve.capacities.trans ih.capacities,
      hserve.room.trans ih.room⟩

/-- What came of the last call of a history that looked a text up and did not find it. -/
inductive LatestMiss (start : Engine) (text : String) :
    List Call → Except QueryError Compilation → Prop
  | here {history : List Call} {call : Call} (h : call.text? = some text)
    (hmiss : (start.after history).Misses call) :
    LatestMiss start text (history ++ [call]) ((start.after history).compile text).1
  | later {history : List Call} {call : Call} {result : Except QueryError Compilation}
    (h : LatestMiss start text history result)
    (hnot : call.text? = some text → ¬ (start.after history).Misses call) :
    LatestMiss start text (history ++ [call]) result

/-- Some call of a history was given this compilation. -/
inductive Given (start : Engine) : List Call → Compilation → Prop
  | here {history : List Call} {call : Call} {text : String} {compilation : Compilation}
    (h : call.text? = some text)
    (hresult : ((start.after history).compile text).1 = .ok compilation) :
    Given start (history ++ [call]) compilation
  | before {history : List Call} {compilation : Compilation} (call : Call)
    (h : Given start history compilation) : Given start (history ++ [call]) compilation

lemma LatestMiss.given {compilation : Compilation}
    (h : start.LatestMiss text history (.ok compilation)) : start.Given history compilation := by
  generalize hresult : Except.ok compilation = result at h
  induction h with
  | here h => exact .here h hresult.symm
  | later _ _ ih => exact .before _ (ih hresult)

lemma given_append_singleton {compilation : Compilation}
    (h : start.Given (history ++ [call]) compilation) :
    start.Given history compilation ∨ ∃ text, call.text? = some text ∧
      ((start.after history).compile text).1 = .ok compilation := by
  generalize hcalls : history ++ [call] = calls at h
  cases h with
  | here h hresult =>
    obtain ⟨rfl, rfl⟩ := List.append_singleton_inj.1 hcalls
    exact .inr ⟨_, h, hresult⟩
  | before _ h =>
    obtain ⟨rfl, rfl⟩ := List.append_singleton_inj.1 hcalls
    exact .inl h

/-- Each program that is kept was compiled when its text was last missed. -/
def Traced (start : Engine) (history : List Call) : Prop :=
  ∀ entry ∈ (start.after history).kept.entries, start.LatestMiss entry.1 history (.ok entry.2)

lemma Traced.serve (h : start.Traced history) (hkeeps : start.capacities.keepsPrograms = true)
    (call : Call) : start.Traced (history ++ [call]) := by
  rw [← (alike_after start history).capacities] at hkeeps
  rw [Traced, after_append_singleton]
  intro entry hentry
  cases htext : call.text? with
  | none =>
    rw [serve_of_text?_eq_none _ htext] at hentry
    cases hentry
  | some text =>
    -- an entry of another text is not touched
    have hother : entry ∈ (start.after history).kept.entries → entry.1 ≠ text →
        start.LatestMiss entry.1 (history ++ [call]) (.ok entry.2) := fun hmem hne =>
      .later (h _ hmem) fun hsome => absurd (Option.some.inj (hsome.symm.trans htext)) hne
    rw [serve_of_text? _ htext] at hentry
    have hl := (start.after history).looked_compile text
    generalize hresult : (start.after history).compile text = result at hl hentry
    cases hl with
    | found _ hmem =>
      have hhits := hits_of_mem hkeeps htext (List.mem_map_of_mem hmem)
      rcases Lru.mem_entries_insert hentry with rfl | ⟨hentry, hne⟩
      · exact .later (h _ hmem) fun _ => hhits.not_misses
      · exact hother hentry hne
    | compiled _ hnot =>
      rcases Lru.mem_entries_insert hentry with rfl | ⟨hentry, hne⟩
      · have hlatest := LatestMiss.here htext (misses_of_notMem hkeeps htext hnot)
        rwa [hresult] at hlatest
      · exact hother hentry hne
    | refused _ hnot =>
      exact hother hentry fun heq => hnot (heq ▸ List.mem_map_of_mem hentry)
    | uncached hnone | uncachedRefused hnone => cases hkeeps.symm.trans hnone

/-- The compilations that calls were given have numbers below the next one. -/
def Numbered (start : Engine) (history : List Call) : Prop :=
  ∀ compilation, start.Given history compilation →
    compilation.number < (start.after history).compilations

lemma Numbered.serve (h : start.Numbered history) (htraced : start.Traced history) (call : Call) :
    start.Numbered (history ++ [call]) := by
  intro compilation hgiven
  rw [after_append_singleton]
  have hle := (start.after history).compilations_le_serve call
  rcases given_append_singleton hgiven with hgiven | ⟨text, htext, hresult⟩
  · exact (h _ hgiven).trans_le hle
  · rcases mem_or_number_of_compile hresult with hmem | ⟨hnumber, hnext⟩
    · exact (h _ (htraced _ hmem).given).trans_le hle
    · rw [serve_of_text? _ htext, hnumber, hnext]
      exact Nat.lt_succ_self _

/-! ### From the start -/

section New

variable {r : Registry} {c : Capacities}

lemma faithful_after (r : Registry) (c : Capacities) (history : List Call) :
    ((new r c).after history).Faithful := by
  induction history using List.reverseRecOn with
  | nil => exact faithful_new r c
  | append_singleton history call ih =>
    rw [after_append_singleton]
    exact ih.serve call

lemma keepsPrograms_after (hc : 0 < c.programs) (history : List Call) :
    ((new r c).after history).capacities.keepsPrograms = true := by
  rw [(alike_after (new r c) history).capacities]
  exact decide_eq_true hc

lemma reflects_after (hc : 0 < c.programs) (history : List Call) :
    ((new r c).after history).kept.Reflects (r.used history) := by
  induction history using List.reverseRecOn with
  | nil => exact Lru.reflects_clear (new r c).kept
  | append_singleton history call ih =>
    rw [after_append_singleton]
    exact (faithful_after r c history).reflects_serve (alike_after (new r c) history).registry
      (keepsPrograms_after hc history) ih call

lemma counts_after (hc : 0 < c.programs) (history : List Call) :
    ((new r c).after history).counts.hits + ((new r c).after history).counts.misses =
      lookups history := by
  induction history using List.reverseRecOn with
  | nil => rfl
  | append_singleton history call ih =>
    rw [after_append_singleton, counts_serve (keepsPrograms_after hc history), ih,
      lookups_append_singleton]

lemma counts_after_of_uncached (hc : c.programs = 0) (history : List Call) :
    ((new r c).after history).counts = ⟨0, 0, 0⟩ := by
  induction history using List.reverseRecOn with
  | nil => rfl
  | append_singleton history call ih =>
    rw [after_append_singleton]
    refine counts_serve_of_uncached ?_ ih call
    rw [(alike_after (new r c) history).capacities]
    exact decide_eq_false (by simp [new, hc])

lemma traced_after (hc : 0 < c.programs) (history : List Call) : (new r c).Traced history := by
  induction history using List.reverseRecOn with
  | nil => intro entry hentry; cases hentry
  | append_singleton history call ih => exact ih.serve (keepsPrograms_after hc []) call

lemma numbered_after (hc : 0 < c.programs) (history : List Call) :
    (new r c).Numbered history := by
  induction history using List.reverseRecOn with
  | nil =>
    intro compilation hgiven
    generalize hcalls : ([] : List Call) = calls at hgiven
    cases hgiven <;> simp at hcalls
  | append_singleton history call ih => exact ih.serve (traced_after hc history) call

end New

/-- **What is found, and what is counted.** With room for programs, a call finds a program if its
text is among the last texts in use, as many as there is room for; it is then the one that was
compiled at the latest miss of the text. Every other call is a miss, and what it compiles is no
program that a call was given before; if the text does not compile, the miss leaves what is kept
and its order. All calls that look a text up are counted, and what is kept has the size of what
is in use, up to the room. Without room, nothing is counted. -/
theorem lookups_characterized (r : Registry) (c : Capacities) (history : List Call) :
    (0 < c.programs →
      let e := (new r c).after history
      (∀ call text, call.text? = some text →
        (e.Hits call ↔ text ∈ r.remembered c.programs history) ∧
        (e.Misses call ↔ text ∉ r.remembered c.programs history) ∧
        (e.Hits call → ∃ compilation, (e.compile text).1 = .ok compilation ∧
          (new r c).LatestMiss text history (.ok compilation)) ∧
        (e.Misses call → ∀ compilation given, (e.compile text).1 = .ok compilation →
          (new r c).Given history given → given.number ≠ compilation.number) ∧
        (∀ error, r.prepare text = .error error →
          e.Misses call ∧ (e.serve call).kept = e.kept)) ∧
      e.kept.keys = r.remembered c.programs history ∧
      e.counts.entries = min c.programs (r.used history).dedup.length ∧
      e.counts.hits + e.counts.misses = lookups history) ∧
    (c.programs = 0 → ((new r c).after history).counts = ⟨0, 0, 0⟩) := by
  refine ⟨fun hc => ?_, fun hc => counts_after_of_uncached hc history⟩
  intro e
  have hkeeps : e.capacities.keepsPrograms = true := keepsPrograms_after hc history
  have hcapacity : e.kept.capacity = c.programs := (alike_after (new r c) history).room
  have hregistry : e.registry = r := (alike_after (new r c) history).registry
  have hfaithful : e.Faithful := faithful_after r c history
  have hreflects : e.kept.Reflects (r.used history) := reflects_after hc history
  have hkeys : e.kept.keys = r.remembered c.programs history := by
    rw [hreflects, hcapacity, Registry.remembered]
  refine ⟨fun call text htext => ⟨?_, ?_, ?_, ?_, ?_⟩, hkeys, ?_, counts_after hc history⟩
  · rw [hits_iff hkeeps htext, hkeys]
  · rw [misses_iff hkeeps htext, hkeys]
  · intro hhits
    obtain ⟨compilation, hmem, hresult⟩ :=
      exists_compile_of_mem hkeeps ((hits_iff hkeeps htext).1 hhits)
    exact ⟨compilation, hresult, traced_after hc history _ hmem⟩
  · -- a miss gives a number that was never given before
    intro hmisses compilation given hresult hgiven
    have hlt : given.number < e.compilations := numbered_after hc history given hgiven
    rcases mem_or_number_of_compile hresult with hmem | ⟨hnumber, -⟩
    · exact absurd (List.mem_map_of_mem hmem) ((misses_iff hkeeps htext).1 hmisses)
    · omega
  · intro error hp
    rw [← hregistry] at hp
    obtain ⟨hnot, hsame⟩ := hfaithful.kept_serve_of_error htext hp
    exact ⟨(misses_iff hkeeps htext).2 hnot, hsame⟩
  · rw [← hcapacity]
    exact hreflects.size

/-- With room for one program, a text is found by the second call. -/
theorem sample_lookups_characterized :
    ((new .empty { programs := 1 }).after [.compile "$"]).Hits (.query "$" .null) ∧
      ((new .empty { programs := 1 }).after [.compile "$"]).counts.entries = 1 := by
  obtain ⟨hcalls, -, hentries, -⟩ :=
    (lookups_characterized .empty { programs := 1 } [.compile "$"]).1 (by decide)
  have hused : Registry.empty.used [.compile "$"] = ["$"] := by cbv
  refine ⟨(hcalls (.query "$" .null) "$" rfl).1.2 ?_, ?_⟩
  · rw [Registry.remembered, hused]
    decide
  · rw [hentries, hused]
    decide

end Engine
end JsonQuery
