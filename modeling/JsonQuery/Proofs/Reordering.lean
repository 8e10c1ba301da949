import JsonQuery.Proofs.DistinctNames
import JsonQuery.Proofs.Equivariance

/-!
Documents that differ in the order in which the members of objects are stored. Sorting the
members of every object by name gives the same document for all of them, and selectors go along
with it: they take members by name or in ascending order, never as they are stored.
-/

namespace JsonQuery.Json

/-- Induction on a document by its elements, or the values of its members. -/
theorem induction {motive : Json → Prop} (null : motive .null) (bool : ∀ b, motive (.bool b))
    (number : ∀ n, motive (.number n)) (string : ∀ s, motive (.string s))
    (array : ∀ items, (∀ j ∈ items, motive j) → motive (.array items))
    (object : ∀ members, (∀ m ∈ members, motive m.2) → motive (.object members)) (j : Json) :
    motive j := by
  cases j with
  | null => exact null
  | bool b => exact bool b
  | number n => exact number n
  | string s => exact string s
  | array items =>
    exact array items fun j hj => induction null bool number string array object j
  | object members =>
    exact object members fun m hm => induction null bool number string array object m.2
termination_by sizeOf j
decreasing_by
  · have := List.sizeOf_lt_of_mem hj
    simp only [Json.array.sizeOf_spec]
    omega
  · have := List.sizeOf_lt_of_mem hm
    cases m
    simp only [Json.object.sizeOf_spec, Prod.mk.sizeOf_spec] at *
    omega

/-- Documents that are equal up to the order of members, in the objects of any depth. -/
inductive Reordered : Json → Json → Prop
  | refl (j : Json) : Reordered j j
  | trans {i j k : Json} (h : Reordered i j) (h' : Reordered j k) : Reordered i k
  /-- The members of an object in another order. -/
  | members {ms ms' : List (String × Json)} (h : ms.Perm ms') :
    Reordered (.object ms) (.object ms')
  /-- Within an element of an array. -/
  | item {j k : Json} (before after : List Json) (h : Reordered j k) :
    Reordered (.array (before ++ j :: after)) (.array (before ++ k :: after))
  /-- Within the value of a member. -/
  | member {j k : Json} (before : List (String × Json)) (name : String)
    (after : List (String × Json)) (h : Reordered j k) :
    Reordered (.object (before ++ (name, j) :: after)) (.object (before ++ (name, k) :: after))

mutual

/-- A document with the members of every object in ascending order of their names. -/
def sorted : Json → Json
  | .null => .null
  | .bool b => .bool b
  | .number n => .number n
  | .string s => .string s
  | .array items => .array (sortedItems items)
  | .object members => .object (sortByName (sortedMembers members))

def sortedItems : List Json → List Json
  | [] => []
  | item :: items => item.sorted :: sortedItems items

def sortedMembers : List (String × Json) → List (String × Json)
  | [] => []
  | (name, value) :: members => (name, value.sorted) :: sortedMembers members

end

lemma sortedItems_eq (items : List Json) : sortedItems items = items.map sorted := by
  induction items with
  | nil => rfl
  | cons item items ih => rw [sortedItems, ih, List.map_cons]

lemma sortedMembers_eq (members : List (String × Json)) :
    sortedMembers members = members.map (Prod.map id sorted) := by
  induction members with
  | nil => rfl
  | cons m members ih => rw [sortedMembers, ih, List.map_cons]; rfl

lemma sorted_array (items : List Json) : (array items).sorted = .array (items.map sorted) := by
  rw [sorted, sortedItems_eq]

lemma sorted_object (members : List (String × Json)) :
    (object members).sorted = .object (sortByName (members.map (Prod.map id sorted))) := by
  rw [sorted, sortedMembers_eq]

/-! ### Members by name -/

section Members

variable {α β : Type} {members members' : List (String × α)}

lemma pairwise_sortByName (members : List (String × α)) :
    (sortByName members).Pairwise fun a b => a.1 ≤ b.1 := by
  have h : (sortByName members).Pairwise fun a b => decide (a.1 ≤ b.1) = true :=
    List.pairwise_mergeSort (fun a b c => by simpa using String.le_trans)
      (fun a b => by simpa using String.le_total ..) members
  exact h.imp of_decide_eq_true

lemma sortByName_map (f : α → β) (members : List (String × α)) :
    sortByName (members.map (Prod.map id f)) = (sortByName members).map (Prod.map id f) := by
  exact (List.map_mergeSort (f := Prod.map id f) fun _ _ _ _ => rfl).symm

lemma sortByName_sortByName (members : List (String × α)) :
    sortByName (sortByName members) = sortByName members :=
  List.mergeSort_of_pairwise ((pairwise_sortByName members).imp decide_eq_true)

/-- Of members with distinct names there is one ascending order. -/
lemma sortByName_eq_of_perm (h : members.Perm members') (hnames : (members.map Prod.fst).Nodup) :
    sortByName members = sortByName members' := by
  have hperm : (sortByName members).Perm (sortByName members') :=
    (sortByName_perm members).trans (h.trans (sortByName_perm members').symm)
  refine hperm.eq_of_pairwise (fun a b ha hb hab hba => ?_) (pairwise_sortByName members)
    (pairwise_sortByName members')
  have ha' : a ∈ members := (sortByName_perm members).mem_iff.1 ha
  have hb' : b ∈ members := h.mem_iff.2 ((sortByName_perm members').mem_iff.1 hb)
  exact List.inj_on_of_nodup_map hnames ha' hb' (String.le_antisymm hab hba)

lemma lookup_map (f : α → β) (name : String) (members : List (String × α)) :
    (members.map (Prod.map id f)).lookup name = (members.lookup name).map f := by
  induction members with
  | nil => rfl
  | cons m members ih =>
    obtain ⟨key, value⟩ := m
    rw [List.map_cons, Prod.map_apply, List.lookup_cons, List.lookup_cons, ih, id]
    cases name == key <;> rfl

lemma lookup_eq_head?_filter (name : String) (members : List (String × α)) :
    members.lookup name = (members.filter (·.1 == name)).head?.map Prod.snd := by
  induction members with
  | nil => rfl
  | cons m members ih =>
    obtain ⟨key, value⟩ := m
    rw [List.lookup_cons, List.filter_cons, BEq.comm, ih]
    cases key == name <;> rfl

/-- Members of one name keep their order when they are sorted. -/
lemma filter_sortByName (name : String) (members : List (String × α)) :
    (sortByName members).filter (·.1 == name) = members.filter (·.1 == name) := by
  have hsame : (members.filter (·.1 == name)).Pairwise fun a b => decide (a.1 ≤ b.1) = true := by
    refine List.pairwise_of_forall_mem_list fun a ha b hb => ?_
    have ha : a.1 = name := by simpa using (List.mem_filter.1 ha).2
    have hb : b.1 = name := by simpa using (List.mem_filter.1 hb).2
    simp [ha, hb]
  have hsub : (members.filter (·.1 == name)).Sublist (sortByName members) :=
    List.sublist_mergeSort (fun a b c => by simpa using String.le_trans)
      (fun a b => by simpa using String.le_total ..) hsame List.filter_sublist
  -- The members of that name are a part of those in the sorted list, and they are as many.
  have hfilter := hsub.filter (·.1 == name)
  rw [List.filter_filter] at hfilter
  simp only [Bool.and_self] at hfilter
  exact (hfilter.eq_of_length ((sortByName_perm members).filter _).length_eq.symm).symm

lemma lookup_sortByName (name : String) (members : List (String × α)) :
    (sortByName members).lookup name = members.lookup name := by
  rw [lookup_eq_head?_filter, lookup_eq_head?_filter, filter_sortByName]

lemma mem_of_lookup {key : String} {value : α} (h : members.lookup key = some value) :
    (key, value) ∈ members := by
  obtain ⟨before, after, rfl, -⟩ := List.lookup_eq_some_iff.1 h
  simp

lemma lookup_eq_some_iff_mem (hnames : (members.map Prod.fst).Nodup) {key : String} {value : α} :
    members.lookup key = some value ↔ (key, value) ∈ members := by
  refine ⟨mem_of_lookup, fun h => ?_⟩
  obtain ⟨before, after, rfl⟩ := List.append_of_mem h
  refine List.lookup_eq_some_iff.2 ⟨before, after, rfl, fun m hm => ?_⟩
  have hkey : key ∉ before.map Prod.fst := by
    rw [List.map_append, List.map_cons] at hnames
    exact fun hmem => (List.nodup_append.1 hnames).2.2 key hmem key (by simp) rfl
  exact bne_iff_ne.2 fun heq => hkey (heq ▸ List.mem_map_of_mem hm)

end Members

/-- Selectors go along with sorting. -/
lemma equivariant_sorted : Equivariant sorted where
  member? key j := by
    cases j with
    | object members => rw [sorted_object, member?, lookup_sortByName, lookup_map, member?]
    | _ => rfl
  elements j := by
    cases j with
    | array items => rw [sorted_array, elements, elements]
    | object members => rw [sorted_object]; rfl
    | _ => rfl
  children j := by
    cases j with
    | array items => rw [sorted_array, children, children]
    | object members =>
      rw [sorted_object, children, sortByName_sortByName, sortByName_map, children, List.map_map,
        List.map_map]
      rfl
    | _ => rfl

/-! ### Documents that are equal when they are sorted -/

lemma Reordered.symm {j k : Json} (h : Reordered j k) : Reordered k j := by
  induction h with
  | refl j => exact .refl j
  | trans _ _ ih ih' => exact .trans ih' ih
  | members h => exact .members h.symm
  | item before after _ ih => exact .item before after ih
  | member before name after _ ih => exact .member before name after ih

lemma reordered_array {items : List Json} (φ : Json → Json) (h : ∀ j ∈ items, Reordered j (φ j))
    (before : List Json) :
    Reordered (.array (before ++ items)) (.array (before ++ items.map φ)) := by
  induction items generalizing before with
  | nil => exact .refl _
  | cons item items ih =>
    obtain ⟨hitem, hitems⟩ := List.forall_mem_cons.1 h
    have hrest := ih hitems (before ++ [φ item])
    rw [List.append_assoc, List.append_assoc] at hrest
    exact .trans (.item before items hitem) hrest

lemma reordered_object {members : List (String × Json)} (φ : Json → Json)
    (h : ∀ m ∈ members, Reordered m.2 (φ m.2)) (before : List (String × Json)) :
    Reordered (.object (before ++ members))
      (.object (before ++ members.map (Prod.map id φ))) := by
  induction members generalizing before with
  | nil => exact .refl _
  | cons m members ih =>
    obtain ⟨hm, hmembers⟩ := List.forall_mem_cons.1 h
    obtain ⟨name, value⟩ := m
    have hrest := ih hmembers (before ++ [(name, φ value)])
    rw [List.append_assoc, List.append_assoc] at hrest
    exact .trans (.member before name members hm) hrest

/-- To sort a document is to reorder it. -/
lemma reordered_sorted (j : Json) : Reordered j j.sorted := by
  induction j using Json.induction with
  | array items ih =>
    rw [sorted_array]
    exact reordered_array sorted ih []
  | object members ih =>
    rw [sorted_object]
    exact .trans (reordered_object sorted ih []) (.members (sortByName_perm _).symm)
  | _ => exact .refl _

lemma reordered_of_sorted_eq {j k : Json} (h : j.sorted = k.sorted) : Reordered j k := by
  have hj := reordered_sorted j
  rw [h] at hj
  exact .trans hj (reordered_sorted k).symm

/-- Nodes that are, one by one, equal up to the order of members. -/
lemma forall₂_reordered_of_map_eq {as bs : List Json} (h : as.map sorted = bs.map sorted) :
    List.Forall₂ Reordered as bs := by
  have hsame : List.Forall₂ (· = ·) (as.map sorted) (bs.map sorted) :=
    List.forall₂_eq_eq_eq ▸ h
  rw [List.forall₂_map_left_iff, List.forall₂_map_right_iff] at hsame
  exact hsame.imp fun _ _ => reordered_of_sorted_eq

/-- Reordering keeps names distinct, and sorting undoes it. -/
lemma Reordered.sorted_eq {j k : Json} (h : Reordered j k) (hj : j.DistinctNames) :
    j.sorted = k.sorted ∧ k.DistinctNames := by
  induction h with
  | refl j => exact ⟨rfl, hj⟩
  | trans _ _ ih ih' =>
    obtain ⟨heq, hnext⟩ := ih hj
    obtain ⟨heq', hlast⟩ := ih' hnext
    exact ⟨heq.trans heq', hlast⟩
  | @members ms ms' hperm =>
    cases hj with
    | object hnames hvalues =>
      refine ⟨?_, .object ((hperm.map Prod.fst).nodup_iff.1 hnames)
        fun m hm => hvalues m (hperm.mem_iff.2 hm)⟩
      rw [sorted_object, sorted_object, sortByName_map, sortByName_map,
        sortByName_eq_of_perm hperm hnames]
  | @item j k before after _ ih =>
    cases hj with
    | array hitems =>
      obtain ⟨heq, hk⟩ := ih (hitems j (by simp))
      refine ⟨by simp [sorted_array, heq], .array fun i hi => ?_⟩
      rcases List.mem_append.1 hi with hi | hi
      · exact hitems i (by simp [hi])
      · rcases List.mem_cons.1 hi with rfl | hi
        · exact hk
        · exact hitems i (by simp [hi])
  | @member j k before name after _ ih =>
    cases hj with
    | object hnames hvalues =>
      obtain ⟨heq, hk⟩ := ih (hvalues (name, j) (by simp))
      refine ⟨by simp [sorted_object, heq], .object (by simpa using hnames) fun m hm => ?_⟩
      rcases List.mem_append.1 hm with hm | hm
      · exact hvalues m (by simp [hm])
      · rcases List.mem_cons.1 hm with rfl | hm
        · exact hk
        · exact hvalues m (by simp [hm])

/-! ### Places -/

/-- A step down in a document. -/
inductive Step where
  | name (key : String)
  | index (position : Nat)

/-- The node at a place, which is given by the steps that lead to it. -/
def at? : List Step → Json → Option Json
  | [], j => some j
  | .name key :: place, j => (j.member? key).bind (at? place)
  | .index position :: place, j => j.elements[position]?.bind (at? place)

lemma Equivariant.at? {φ : Json → Json} (hφ : Equivariant φ) (place : List Step) (j : Json) :
    Json.at? place (φ j) = (Json.at? place j).map φ := by
  induction place generalizing j with
  | nil => rfl
  | cons step place ih =>
    cases step with
    | name key =>
      rw [Json.at?, Json.at?, hφ.member?, Option.bind_map, Option.map_bind]
      exact congrArg _ (funext ih)
    | index position =>
      rw [Json.at?, Json.at?, hφ.elements, List.getElem?_map, Option.bind_map, Option.map_bind]
      exact congrArg _ (funext ih)

end JsonQuery.Json
