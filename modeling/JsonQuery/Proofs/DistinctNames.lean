import JsonQuery.Json.Reading
import Mathlib.Data.List.Nodup

/-!
Documents in which no object has two members of one name. Every document that is read is such a
document, since a later member takes the place of an earlier one.
-/

namespace JsonQuery.Json

/-- In each object of a document, at any depth, no name has two members. -/
inductive DistinctNames : Json → Prop
  | null : DistinctNames .null
  | bool (b : Bool) : DistinctNames (.bool b)
  | number (n : Number) : DistinctNames (.number n)
  | string (s : String) : DistinctNames (.string s)
  | array {items : List Json} (h : ∀ j ∈ items, DistinctNames j) : DistinctNames (.array items)
  | object {members : List (String × Json)} (hnames : (members.map Prod.fst).Nodup)
    (h : ∀ m ∈ members, DistinctNames m.2) : DistinctNames (.object members)

lemma setMember_names (members : List (String × Json)) (name : String) (value : Json) :
    (setMember members name value).map Prod.fst =
      if name ∈ members.map Prod.fst then members.map Prod.fst
      else members.map Prod.fst ++ [name] := by
  have hany : members.any (·.1 == name) = true ↔ name ∈ members.map Prod.fst := by
    simp [List.any_eq_true]
  by_cases h : name ∈ members.map Prod.fst
  · rw [setMember, if_pos (hany.2 h), if_pos h, List.map_map]
    refine List.map_congr_left fun m _ => ?_
    rw [Function.comp_apply]
    split_ifs with hm
    · exact (eq_of_beq hm).symm
    · rfl
  · rw [setMember, if_neg (mt hany.1 h), if_neg h, List.map_append, List.map_singleton]

lemma DistinctNames.setMember {members : List (String × Json)} (h : DistinctNames (.object members))
    (name : String) {value : Json} (hvalue : value.DistinctNames) :
    DistinctNames (.object (setMember members name value)) := by
  cases h with
  | object hnames hvalues =>
    refine .object ?_ fun m hm => ?_
    · rw [setMember_names]
      split_ifs with hname
      · exact hnames
      · exact hnames.append (List.nodup_singleton name) (by simpa using hname)
    · rw [Json.setMember] at hm
      split_ifs at hm
      · obtain ⟨m', hm', rfl⟩ := List.mem_map.1 hm
        split_ifs
        · exact hvalue
        · exact hvalues m' hm'
      · rcases List.mem_append.1 hm with hm | hm
        · exact hvalues m hm
        · rw [List.mem_singleton.1 hm]
          exact hvalue

lemma distinctNames_of_number? {s : List Char} {v : Parsed Json s.length}
    (h : number? s = some v) : v.value.DistinctNames := by
  rw [number?] at h
  split at h
  · cases h
  · obtain ⟨n, -, rfl⟩ := Option.map_eq_some_iff.1 h
    exact .number n

lemma distinctNames_of_word? {s : List Char} {v : Parsed Json s.length}
    (h : word? s = some v) : v.value.DistinctNames := by
  unfold word? at h
  split at h <;> cases h
  · exact .null
  · exact .bool true
  · exact .bool false

mutual

lemma distinctNames_of_readValue {s : List Char} {v : Parsed Json s.length}
    (h : readValue s = some v) : v.value.DistinctNames := by
  rw [readValue] at h
  split at h
  · -- an array
    rename_i t ht
    have : t.length + 1 ≤ s.length := length_le_of_skipBlanks ht
    simp only at h
    split at h
    · cases h
      exact .array (List.forall_mem_nil _)
    · obtain ⟨items, hitems, hv⟩ := Option.bind_eq_some_iff.1 h
      cases hv
      exact .array (distinctNames_of_readItems hitems)
  · -- an object
    rename_i t ht
    have : t.length + 1 ≤ s.length := length_le_of_skipBlanks ht
    simp only at h
    split at h
    · cases h
      exact .object .nil (List.forall_mem_nil _)
    · obtain ⟨members, hmembers, hv⟩ := Option.bind_eq_some_iff.1 h
      cases hv
      have hempty : DistinctNames (.object []) := .object .nil (List.forall_mem_nil _)
      exact distinctNames_of_readMembers hempty hmembers
  · -- a string, a number or a word
    simp only at h
    split at h
    · cases h
      exact .string _
    · obtain ⟨value, hvalue, hv⟩ := Option.bind_eq_some_iff.1 h
      cases hv
      rw [Option.orElse_eq_orElse, Option.orElse_eq_or, Option.or_eq_some_iff] at hvalue
      rcases hvalue with hvalue | ⟨-, hvalue⟩
      · exact (distinctNames_of_number? hvalue :)
      · exact (distinctNames_of_word? hvalue :)
termination_by (s.length, 1)
decreasing_by all_goals omega

lemma distinctNames_of_readItems {s : List Char} {items : Parsed (List Json) s.length}
    (h : readItems s = some items) : ∀ j ∈ items.value, j.DistinctNames := by
  rw [readItems] at h
  obtain ⟨item, hitem, h⟩ := Option.bind_eq_some_iff.1 h
  have := item.fits
  have hfirst := distinctNames_of_readValue hitem
  simp only at h
  split at h
  · cases h
    exact List.forall_mem_singleton.2 hfirst
  · rename_i t ht
    have : t.length + 1 ≤ item.rest.length := length_le_of_skipBlanks ht
    obtain ⟨others, hothers, hv⟩ := Option.bind_eq_some_iff.1 h
    cases hv
    exact List.forall_mem_cons.2 ⟨hfirst, distinctNames_of_readItems hothers⟩
  · cases h
termination_by (s.length, 2)
decreasing_by all_goals omega

lemma distinctNames_of_readMembers {before : List (String × Json)} {s : List Char}
    {all : Parsed (List (String × Json)) s.length} (hbefore : DistinctNames (.object before))
    (h : readMembers before s = some all) : DistinctNames (.object all.value) := by
  rw [readMembers] at h
  obtain ⟨name, hname, h⟩ := Option.bind_eq_some_iff.1 h
  have := name.fits
  have := length_skipBlanks_le s
  simp only at h
  split at h
  · rename_i t ht
    have : t.length + 1 ≤ name.rest.length := length_le_of_skipBlanks ht
    obtain ⟨value, hvalue, h⟩ := Option.bind_eq_some_iff.1 h
    have := value.fits
    have hnext := hbefore.setMember name.value (distinctNames_of_readValue hvalue)
    split at h
    · cases h
      exact hnext
    · rename_i u hu
      have : u.length + 1 ≤ value.rest.length := length_le_of_skipBlanks hu
      obtain ⟨others, hothers, hv⟩ := Option.bind_eq_some_iff.1 h
      cases hv
      exact (distinctNames_of_readMembers hnext hothers :)
    · cases h
  · cases h
termination_by (s.length, 2)
decreasing_by all_goals omega

end

/-- **In a document that is read, names are distinct.** -/
theorem distinctNames_of_parse? {text : String} {j : Json} (h : parse? text = some j) :
    j.DistinctNames := by
  obtain ⟨v, hv, h⟩ := Option.bind_eq_some_iff.1 h
  split_ifs at h
  cases h
  exact distinctNames_of_readValue hv

end JsonQuery.Json
