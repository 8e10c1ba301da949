import JsonQuery.Json.Descendants
import JsonQuery.Proofs.ByteOrder
import JsonQuery.Proofs.Reordering

/-!
The pre-order of documents. Two loops list it, one with the top of its stack in front and one
with the top at the back, where the children of a node are pushed in order and then reversed:
what has been listed, followed by the pre-order of what is on the stack from the top down, stays
the same in every turn.

The pre-order goes through the places of a document. Each place is listed once, and a place
comes before those that lead further down from it.
-/

namespace JsonQuery.Json

/-! ### The loop with the top at the back -/

/-- A list whose entries from the `n`-th on are reversed. -/
def reverseFrom (n : Nat) (stack : List Json) : List Json :=
  stack.take n ++ (stack.drop n).reverse

/-- What a listing of nodes has at hand: the nodes listed so far, and a stack of nodes to be
visited, of which the last one is next. -/
structure Expansion where
  listed : List Json
  stack : List Json

namespace Expansion

/-- Visits the next node: it is taken off the stack and listed, and its children are pushed in
order and turned around, so that the first one is next. -/
def visit? (e : Expansion) : Option Expansion :=
  e.stack.getLast?.map fun node =>
    let rest := e.stack.dropLast
    ⟨e.listed ++ [node], reverseFrom rest.length (rest ++ node.children)⟩

lemma visit?_append (listed rest : List Json) (node : Json) :
    visit? ⟨listed, rest ++ [node]⟩ =
      some ⟨listed ++ [node], rest ++ node.children.reverse⟩ := by
  simp [visit?, reverseFrom]

lemma visit?_eq_none {e : Expansion} (h : e.visit? = none) : e.stack = [] := by
  simpa [visit?] using h

lemma exists_of_visit? {e next : Expansion} (h : e.visit? = some next) :
    ∃ rest node, e.stack = rest ++ [node] ∧
      next = ⟨e.listed ++ [node], rest ++ node.children.reverse⟩ := by
  obtain ⟨listed, stack⟩ := e
  rcases List.eq_nil_or_concat stack with rfl | ⟨rest, node, rfl⟩
  · cases h
  · rw [List.concat_eq_append, visit?_append] at h
    cases h
    exact ⟨rest, node, by simp, rfl⟩

/-- A turn takes one node off what is on the stack and below. -/
lemma nodes_of_visit? {e next : Expansion} (h : e.visit? = some next) :
    nodesOfItems next.stack + 1 = nodesOfItems e.stack := by
  obtain ⟨rest, node, hstack, rfl⟩ := exists_of_visit? h
  have hchildren := nodesOfItems_perm node.children.reverse_perm
  have hnode := node.nodes_children
  simp only [hstack, nodesOfItems_append, nodesOfItems]
  omega

/-- Visits nodes until the stack is empty. -/
def run (e : Expansion) : List Json :=
  match _h : e.visit? with
  | none => e.listed
  | some next => next.run
termination_by nodesOfItems e.stack
decreasing_by
  have := nodes_of_visit? _h
  omega

/-- What is listed once the stack is empty: what has been listed, and the pre-order of the nodes
on the stack, the last one first. -/
def complete (e : Expansion) : List Json := e.listed ++ e.stack.reverse.flatMap preorder

lemma complete_of_visit? {e next : Expansion} (h : e.visit? = some next) :
    next.complete = e.complete := by
  obtain ⟨rest, node, hstack, rfl⟩ := exists_of_visit? h
  calc complete ⟨e.listed ++ [node], rest ++ node.children.reverse⟩
      = e.listed ++ (node :: node.children.flatMap preorder) ++ rest.reverse.flatMap preorder := by
        simp [complete]
    _ = e.complete := by
        rw [complete, hstack, ← preorder_eq]
        simp

lemma run_eq_complete (e : Expansion) : e.run = e.complete := by
  fun_induction run e with
  | case1 e h =>
    rw [complete, visit?_eq_none h]
    simp
  | case2 e next h ih => rw [ih, complete_of_visit? h]

end Expansion

/-- The nodes below each root, itself included, with one stack for all the roots. -/
def expansion (roots : List Json) : List Json :=
  roots.foldl (fun listed root => Expansion.run ⟨listed, [root]⟩) []

lemma expansion_eq (roots : List Json) : expansion roots = roots.flatMap preorder := by
  have hfold : ∀ listed : List Json,
      roots.foldl (fun listed root => Expansion.run ⟨listed, [root]⟩) listed =
        listed ++ roots.flatMap preorder := by
    induction roots with
    | nil => simp
    | cons root roots ih =>
      intro listed
      rw [List.foldl_cons, ih, Expansion.run_eq_complete]
      simp [Expansion.complete]
  exact hfold []

/-! ### Places -/

/-- The children of a node, each with the step that leads to it. -/
def branches : Json → List (Step × Json)
  | .array items => items.zipIdx.map fun m => (.index m.2, m.1)
  | .object members => (sortByName members).map fun m => (.name m.1, m.2)
  | _ => []

lemma branches_snd (j : Json) : j.branches.map Prod.snd = j.children := by
  cases j with
  | array items => simp [branches, children, Function.comp_def]
  | object members => simp [branches, children]
  | _ => rfl

lemma nodes_lt_of_mem_branches {j : Json} {branch : Step × Json} (h : branch ∈ j.branches) :
    branch.2.nodes < j.nodes := by
  have hchild : branch.2 ∈ j.children := branches_snd j ▸ List.mem_map_of_mem h
  have hle := nodes_lt_of_mem hchild
  have hj := j.nodes_children
  omega

/-- The places of a document in pre-order. -/
def places (j : Json) : List (List Step) :=
  [] :: j.branches.attach.flatMap fun branch => (places branch.1.2).map (branch.1.1 :: ·)
termination_by j.nodes
decreasing_by exact nodes_lt_of_mem_branches branch.2

lemma places_eq (j : Json) :
    j.places = [] :: j.branches.flatMap fun branch => branch.2.places.map (branch.1 :: ·) := by
  have hbranches : ∀ (branch : Step × Json) (_ : branch ∈ j.branches),
      branch.2.places.map (branch.1 :: ·) = branch.2.places.map (branch.1 :: ·) := fun _ _ => rfl
  rw [places, List.flatMap_subtype hbranches, List.unattach_attach]

/-- The node that a step leads to. -/
def child? : Step → Json → Option Json
  | .name key, j => j.member? key
  | .index position, j => j.elements[position]?

lemma at?_cons (step : Step) (place : List Step) (j : Json) :
    at? (step :: place) j = (j.child? step).bind (at? place) := by
  cases step <;> rfl

section Branches

variable {j : Json} (hj : j.DistinctNames)
include hj

lemma child?_eq_some_iff {step : Step} {child : Json} :
    j.child? step = some child ↔ (step, child) ∈ j.branches := by
  cases hj with
  | @array items _ =>
    cases step with
    | name key => simp [child?, member?, branches]
    | index position => simp [child?, elements, branches, List.mk_mem_zipIdx_iff_getElem?]
  | @object members hnames _ =>
    cases step with
    | name key =>
      simp [child?, member?, branches, lookup_eq_some_iff_mem hnames,
        (sortByName_perm members).mem_iff]
    | index position => simp [child?, elements, branches]
  | _ => cases step <;> simp [child?, member?, elements, branches]

lemma nodup_steps : (j.branches.map Prod.fst).Nodup := by
  cases hj with
  | @array items _ =>
    have hsteps : (branches (.array items)).map Prod.fst =
        (items.zipIdx.map Prod.snd).map Step.index := by
      rw [branches, List.map_map, List.map_map]
      rfl
    rw [hsteps, List.zipIdx_map_snd]
    exact List.Nodup.map (fun _ _ => Step.index.inj) List.nodup_range'
  | @object members hnames _ =>
    have hsteps : (branches (.object members)).map Prod.fst =
        ((sortByName members).map Prod.fst).map Step.name := by
      rw [branches, List.map_map, List.map_map]
      rfl
    have hsorted := ((sortByName_perm members).map Prod.fst).nodup_iff.2 hnames
    rw [hsteps]
    exact List.Nodup.map (fun _ _ => Step.name.inj) hsorted
  | _ => exact .nil

lemma distinctNames_of_mem_branches {branch : Step × Json} (h : branch ∈ j.branches) :
    branch.2.DistinctNames := by
  have hchild : branch.2 ∈ j.children := branches_snd j ▸ List.mem_map_of_mem h
  cases hj with
  | array hitems => exact hitems _ hchild
  | object _ hvalues =>
    obtain ⟨m, hm, heq⟩ := List.mem_map.1 hchild
    exact heq ▸ hvalues m ((sortByName_perm _).mem_iff.1 hm)
  | _ => cases hchild

lemma at?_of_mem_branches {branch : Step × Json} (h : branch ∈ j.branches) (place : List Step) :
    at? (branch.1 :: place) j = at? place branch.2 := by
  rw [at?_cons, (child?_eq_some_iff hj).2 h, Option.bind_some]

end Branches

/-- The nodes of the pre-order stand at the places, one by one. -/
lemma map_at?_places {j : Json} (hj : j.DistinctNames) :
    j.places.map (at? · j) = j.preorder.map some := by
  induction j using places.induct with
  | case1 j ih =>
    have hbelow : ∀ branch ∈ j.branches, (branch.2.places.map (branch.1 :: ·)).map (at? · j) =
        branch.2.preorder.map some := by
      intro branch h
      rw [← ih ⟨branch, h⟩ (distinctNames_of_mem_branches hj h), List.map_map]
      exact List.map_congr_left fun place _ => at?_of_mem_branches hj h place
    calc j.places.map (at? · j)
        = some j :: j.branches.flatMap fun branch =>
            (branch.2.places.map (branch.1 :: ·)).map (at? · j) := by
          rw [places_eq, List.map_cons, List.map_flatMap]
          rfl
      _ = some j :: j.branches.flatMap fun branch => branch.2.preorder.map some := by
          rw [List.flatMap_congr hbelow]
      _ = j.preorder.map some := by
          rw [preorder_eq, ← branches_snd, List.map_cons, List.map_flatMap, List.flatMap_map]

lemma mem_places_iff {j : Json} (hj : j.DistinctNames) (place : List Step) :
    place ∈ j.places ↔ (at? place j).isSome = true := by
  constructor
  · intro h
    have hat : at? place j ∈ j.preorder.map some := by
      rw [← map_at?_places hj]
      exact List.mem_map_of_mem h
    obtain ⟨node, -, hnode⟩ := List.mem_map.1 hat
    rw [← hnode]
    rfl
  · intro h
    induction place generalizing j with
    | nil => rw [places_eq]; exact List.mem_cons_self
    | cons step place ih =>
      rw [at?_cons] at h
      cases hchild : j.child? step with
      | none => rw [hchild] at h; cases h
      | some child =>
        rw [hchild, Option.bind_some] at h
        have hbranch := (child?_eq_some_iff hj).1 hchild
        have hplace := ih (distinctNames_of_mem_branches hj hbranch) h
        rw [places_eq]
        refine List.mem_cons_of_mem _ (List.mem_flatMap.2 ⟨_, hbranch, ?_⟩)
        exact List.mem_map_of_mem hplace

/-- No place leads on to one that is listed before it. -/
lemma pairwise_places {j : Json} (hj : j.DistinctNames) :
    j.places.Pairwise fun place later => ¬later <+: place := by
  induction j using places.induct with
  | case1 j ih =>
    rw [places_eq, List.pairwise_cons, List.pairwise_flatMap]
    refine ⟨fun later hlater => ?root, fun branch h => ?within, ?across⟩
    case root =>
      obtain ⟨branch, -, hlater⟩ := List.mem_flatMap.1 hlater
      obtain ⟨place, -, rfl⟩ := List.mem_map.1 hlater
      simp
    case within =>
      rw [List.pairwise_map]
      refine (ih ⟨branch, h⟩ (distinctNames_of_mem_branches hj h)).imp fun hnot hprefix => ?_
      exact hnot (List.cons_prefix_cons.1 hprefix).2
    case across =>
      refine (List.pairwise_map.1 (nodup_steps hj)).imp fun hne place hplace later hlater hpre => ?_
      obtain ⟨place, -, rfl⟩ := List.mem_map.1 hplace
      obtain ⟨later, -, rfl⟩ := List.mem_map.1 hlater
      exact hne (List.cons_prefix_cons.1 hpre).1.symm

/-! ### Children -/

/-- The children of a node in order: the elements of an array as they stand, the member values
of an object by strictly ascending names, compared byte by byte. -/
inductive InOrder : Json → List Json → Prop
  | null : InOrder .null []
  | bool (b : Bool) : InOrder (.bool b) []
  | number (n : Number) : InOrder (.number n) []
  | string (s : String) : InOrder (.string s) []
  | array (items : List Json) : InOrder (.array items) items
  | object {members sorted : List (String × Json)} (hperm : sorted.Perm members)
    (hnames : sorted.Pairwise fun a b => utf8Bytes a.1 < utf8Bytes b.1) :
    InOrder (.object members) (sorted.map Prod.snd)

lemma inOrder_children {j : Json} (hj : j.DistinctNames) : j.InOrder j.children := by
  cases hj with
  | null => exact .null
  | bool b => exact .bool b
  | number n => exact .number n
  | string s => exact .string s
  | @array items _ => exact .array items
  | @object members hnames _ =>
    have hperm := sortByName_perm members
    have hdistinct : (sortByName members).Pairwise fun a b => a.1 ≠ b.1 :=
      List.pairwise_map.1 ((hperm.map Prod.fst).nodup_iff.2 hnames)
    refine .object hperm ((hdistinct.and (pairwise_sortByName members)).imp ?_)
    rintro a b ⟨hne, hle⟩
    exact utf8Bytes_lt_iff.2 (Decidable.byContradiction fun h => hne (String.le_antisymm hle h))

/-- **Listing with a stack is the recursive pre-order.** Both loops list the pre-order of each
root in turn, which is the node and then the pre-order of each child; children come in order.
The pre-order goes through the places of a document: every place at which there is a node is
listed once, and before all places below it. That names are distinct is so in every document that
is read. -/
theorem expansion_eq_preorder :
    (∀ roots, expansion roots = roots.flatMap preorder ∧
        descendants roots = roots.flatMap preorder) ∧
      (∀ j : Json, j.preorder = j :: j.children.flatMap preorder) ∧
      ∀ j : Json, j.DistinctNames → j.InOrder j.children ∧
        j.places.map (at? · j) = j.preorder.map some ∧
        (∀ place, place ∈ j.places ↔ (at? place j).isSome = true) ∧ j.places.Nodup ∧
        j.places.Pairwise fun place later => ¬later <+: place := by
  refine ⟨fun roots => ⟨expansion_eq roots, descendants_eq roots⟩, preorder_eq, fun j hj => ?_⟩
  have hpairwise := pairwise_places hj
  refine ⟨inOrder_children hj, map_at?_places hj, mem_places_iff hj, ?_, hpairwise⟩
  refine hpairwise.imp ?_
  rintro place _ hnot rfl
  exact hnot List.prefix_rfl

/-- An array of an object whose members are not stored in order. -/
theorem expansion_of_unordered :
    DistinctNames (.array [.object [("b", .null), ("a", .bool true)]]) ∧
      expansion [.array [.object [("b", .null), ("a", .bool true)]], .null] =
        [.array [.object [("b", .null), ("a", .bool true)]],
          .object [("b", .null), ("a", .bool true)], .bool true, .null, .null] ∧
      (places (.array [.object [("b", .null), ("a", .bool true)]])).map
          (at? · (.array [.object [("b", .null), ("a", .bool true)]])) =
        (preorder (.array [.object [("b", .null), ("a", .bool true)]])).map some := by
  obtain ⟨hloop, -, hplaces⟩ := expansion_eq_preorder
  have hnames : DistinctNames (.array [.object [("b", .null), ("a", .bool true)]]) := by
    refine .array (List.forall_mem_singleton.2 (.object (by decide) ?_))
    exact List.forall_mem_cons.2 ⟨.null, List.forall_mem_singleton.2 (.bool true)⟩
  have hsorted : sortByName [("b", Json.null), ("a", .bool true)] =
      [("a", .bool true), ("b", .null)] := by
    simp [sortByName, List.mergeSort]
  refine ⟨hnames, ?_, (hplaces _ hnames).2.1⟩
  rw [(hloop _).1]
  simp [preorder_eq, children, hsorted]

end JsonQuery.Json
