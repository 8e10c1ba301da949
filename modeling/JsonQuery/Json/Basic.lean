import JsonQuery.Number.Double

/-!
JSON documents. An object keeps its members in the order they were stored; whatever goes
through the members of an object visits them in ascending order of their names, so no result
depends on how they are stored.
-/

namespace JsonQuery

/-- A number of a document: an integer of 64 bits, signed or not, or a finite double. -/
inductive Number where
  | int (value : Int)
  | real (value : Double)
  deriving DecidableEq

/-- The double by which a number is compared. -/
def Number.toDouble : Number → Double
  | .int n => .ofInt n
  | .real x => x

inductive Json where
  | null
  | bool (value : Bool)
  | number (value : Number)
  | string (value : String)
  | array (items : List Json)
  | object (members : List (String × Json))

namespace Json

/-- Sorts by name; members of one name keep their order. -/
def sortByName {α : Type} (members : List (String × α)) : List (String × α) :=
  members.mergeSort fun a b => decide (a.1 ≤ b.1)

def member? (name : String) : Json → Option Json
  | .object members => members.lookup name
  | _ => none

def elements : Json → List Json
  | .array items => items
  | _ => []

/-- The element at a position, where a negative one counts from the end. -/
def element? (position : Int) (j : Json) : Option Json :=
  let place := if position < 0 then position + j.elements.length else position
  if 0 ≤ place then j.elements[place.toNat]? else none

/-- The elements of an array, the member values of an object by ascending name; a scalar has
no children. -/
def children : Json → List Json
  | .array items => items
  | .object members => (sortByName members).map (·.2)
  | _ => []

/-! ### Size -/

mutual
def nodes : Json → Nat
  | .array items => nodesOfItems items + 1
  | .object members => nodesOfMembers members + 1
  | _ => 1

def nodesOfItems : List Json → Nat
  | [] => 0
  | item :: items => item.nodes + nodesOfItems items

def nodesOfMembers : List (String × Json) → Nat
  | [] => 0
  | (_, value) :: members => value.nodes + nodesOfMembers members
end

theorem nodesOfItems_append (items others : List Json) :
    nodesOfItems (items ++ others) = nodesOfItems items + nodesOfItems others := by
  induction items with
  | nil => simp [nodesOfItems]
  | cons item items ih => simp [nodesOfItems, ih, Nat.add_assoc]

theorem nodesOfItems_perm {items others : List Json} (h : items.Perm others) :
    nodesOfItems items = nodesOfItems others := by
  induction h with
  | nil => rfl
  | cons item _ ih => simp only [nodesOfItems, ih]
  | swap item other items => simp only [nodesOfItems, Nat.add_left_comm]
  | trans _ _ ih ih' => exact ih.trans ih'

theorem nodesOfMembers_eq (members : List (String × Json)) :
    nodesOfMembers members = nodesOfItems (members.map Prod.snd) := by
  induction members with
  | nil => rfl
  | cons m members ih => obtain ⟨name, value⟩ := m; simp [nodesOfMembers, nodesOfItems, ih]

theorem sortByName_perm {α : Type} (members : List (String × α)) :
    (sortByName members).Perm members :=
  List.mergeSort_perm _ _

theorem nodes_children (j : Json) : nodesOfItems j.children + 1 = j.nodes := by
  cases j with
  | array items => rfl
  | object members =>
    have h := nodesOfItems_perm ((sortByName_perm members).map Prod.snd)
    simp [children, nodes, nodesOfMembers_eq, h]
  | _ => rfl

end Json
end JsonQuery
