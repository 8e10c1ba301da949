import JsonQuery.Engine.Lru
import Mathlib.Data.List.Dedup
import Mathlib.Tactic.Lemma

/-!
Bounded maps and the order of use. Of the keys that were used, each counts at its last use; a
bounded map that has been given every use keeps those that were used last.
-/

namespace JsonQuery

/-- The distinct entries of a list of uses, the most recent first. Of equal uses the last one
counts. -/
def recent {κ : Type} [DecidableEq κ] (uses : List κ) : List κ := uses.dedup.reverse

section Recent

variable {κ : Type} [DecidableEq κ]

lemma dedup_append_singleton (uses : List κ) (key : κ) :
    (uses ++ [key]).dedup = uses.dedup.filter (· ≠ key) ++ [key] := by
  induction uses with
  | nil => simp
  | cons k uses ih =>
    rw [List.cons_append]
    by_cases hk : k ∈ uses
    · rw [List.dedup_cons_of_mem (List.mem_append_left _ hk), List.dedup_cons_of_mem hk, ih]
    rw [List.dedup_cons_of_notMem hk]
    by_cases hkey : k = key
    · rw [List.dedup_cons_of_mem (by simp [hkey]), ih,
        List.filter_cons_of_neg (by simpa using hkey)]
    · rw [List.dedup_cons_of_notMem (by simp [hk, hkey]), ih,
        List.filter_cons_of_pos (by simpa using hkey), List.cons_append]

/-- The last use comes first, and counts no more where it was before. -/
lemma recent_append_singleton (uses : List κ) (key : κ) :
    recent (uses ++ [key]) = key :: (recent uses).filter (· ≠ key) := by
  rw [recent, recent, dedup_append_singleton, List.reverse_append, List.filter_reverse]
  rfl

lemma nodup_recent (uses : List κ) : (recent uses).Nodup :=
  List.nodup_reverse.2 (List.nodup_dedup uses)

lemma take_filter_ne {keys : List κ} (hkeys : keys.Nodup) (key : κ) (n : Nat) :
    ((keys.take (n + 1)).filter (· ≠ key)).take n = (keys.filter (· ≠ key)).take n := by
  induction keys generalizing n with
  | nil => simp
  | cons k keys ih =>
    obtain ⟨hk, hkeys⟩ := List.nodup_cons.1 hkeys
    rw [List.take_succ_cons]
    by_cases hkey : k = key
    · -- the key is left out here and does not come again
      have hall : ∀ l : List κ, l.Sublist keys → l.filter (· ≠ key) = l := by
        intro l hl
        refine List.filter_eq_self.2 fun k' hk' => ?_
        have hne : k' ≠ key := fun heq => hk (hkey ▸ heq ▸ hl.subset hk')
        simpa using hne
      rw [List.filter_cons_of_neg (by simpa using hkey),
        List.filter_cons_of_neg (by simpa using hkey), hall _ (List.take_sublist ..),
        hall _ (List.Sublist.refl _), List.take_take, Nat.min_self]
    · rw [List.filter_cons_of_pos (by simpa using hkey),
        List.filter_cons_of_pos (by simpa using hkey)]
      cases n with
      | zero => rfl
      | succ n => rw [List.take_succ_cons, List.take_succ_cons, ih hkeys]

/-- A use among the most recent keys leads to the most recent keys after it. -/
lemma take_recent_append_singleton (uses : List κ) (key : κ) (n : Nat) :
    (key :: ((recent uses).take n).filter (· ≠ key)).take n =
      (recent (uses ++ [key])).take n := by
  rw [recent_append_singleton]
  cases n with
  | zero => rfl
  | succ n => rw [List.take_succ_cons, List.take_succ_cons, take_filter_ne (nodup_recent uses)]

end Recent

namespace Lru

variable {κ α : Type}

/-- The keys that are kept, the most recently used first. -/
def keys (c : Lru κ α) : List κ := c.entries.map (·.1)

lemma length_keys (c : Lru κ α) : c.keys.length = c.size := List.length_map ..

variable [DecidableEq κ]

lemma keys_insert (c : Lru κ α) (key : κ) (value : α) :
    (c.insert key value).keys = (key :: c.keys.filter (· ≠ key)).take c.capacity := by
  have hfilter : (c.entries.filter (·.1 != key)).map (·.1) = c.keys.filter (· ≠ key) := by
    rw [keys, List.filter_map]
    exact congrArg _ (List.filter_congr fun entry _ => by simp [bne, beq_eq_decide])
  rw [keys, insert, List.map_take, List.map_cons, hfilter]

/-- What an insertion keeps was there, or is what has been inserted. -/
lemma mem_entries_insert {c : Lru κ α} {key : κ} {value : α} {entry : κ × α}
    (h : entry ∈ (c.insert key value).entries) :
    entry = (key, value) ∨ entry ∈ c.entries ∧ entry.1 ≠ key := by
  rcases List.mem_cons.1 (List.mem_of_mem_take h) with rfl | h
  · exact .inl rfl
  · obtain ⟨hmem, hne⟩ := List.mem_filter.1 h
    exact .inr ⟨hmem, by simpa using hne⟩

lemma get?_eq_none_iff {c : Lru κ α} {key : κ} : c.get? key = none ↔ key ∉ c.keys := by
  rw [get?, Option.map_eq_none_iff, List.lookup_eq_none_iff, keys, List.mem_map]
  constructor
  · rintro h ⟨entry, hentry, rfl⟩
    simpa using h entry hentry
  · intro h entry hentry
    have hne : key ≠ entry.1 := fun heq => h ⟨entry, hentry, heq.symm⟩
    simpa using hne

lemma get?_eq_some {c c' : Lru κ α} {key : κ} {value : α} (h : c.get? key = some (value, c')) :
    (key, value) ∈ c.entries ∧ c' = c.insert key value := by
  obtain ⟨found, hfound, heq⟩ := Option.map_eq_some_iff.1 h
  cases heq
  obtain ⟨before, after, hentries, -⟩ := List.lookup_eq_some_iff.1 hfound
  exact ⟨by simp [hentries], rfl⟩

/-- The keys of a map are the most recent of the uses. -/
def Reflects (c : Lru κ α) (uses : List κ) : Prop := c.keys = (recent uses).take c.capacity

lemma Reflects.insert {c : Lru κ α} {uses : List κ} (h : c.Reflects uses) (key : κ) (value : α) :
    (c.insert key value).Reflects (uses ++ [key]) := by
  rw [Reflects, keys_insert, h]
  exact take_recent_append_singleton uses key c.capacity

lemma reflects_clear (c : Lru κ α) : c.clear.Reflects [] := by
  rw [Reflects, recent]
  exact List.take_nil.symm

lemma Reflects.size {c : Lru κ α} {uses : List κ} (h : c.Reflects uses) :
    c.size = min c.capacity uses.dedup.length := by
  rw [← length_keys, h, List.length_take, recent, List.length_reverse]

end Lru
end JsonQuery
