import JsonQuery.Number.Double

/-!
Queries: what a query text says, before anything is known about documents or functions.

A query is a list of segments, each with its selectors, and a filter selector holds a logical
expression in which further queries may stand. Queries compare with `==`, which is equality.
-/

namespace JsonQuery

inductive Operator where
  | or
  | and
  | equal
  | notEqual
  | less
  | lessEqual
  | greater
  | greaterEqual
  deriving DecidableEq

namespace Operator

def symbol : Operator → String
  | .or => "||"
  | .and => "&&"
  | .equal => "=="
  | .notEqual => "!="
  | .less => "<"
  | .lessEqual => "<="
  | .greater => ">"
  | .greaterEqual => ">="

/-- Operators of a higher precedence bind tighter. -/
def precedence : Operator → Nat
  | .or => 1
  | .and => 2
  | _ => 3

/-- The logical operators join truth values; all others compare. -/
def isLogical : Operator → Bool
  | .or | .and => true
  | _ => false

def isComparison (op : Operator) : Bool := !op.isLogical

end Operator

/-- A number of a filter. Query texts hold finite numbers only; a query that was put together
otherwise may hold any. -/
inductive Numeral where
  | finite (value : Double)
  | infinite (negative : Bool)
  | nan
  deriving DecidableEq

inductive Literal where
  | null
  | bool (value : Bool)
  | number (value : Numeral)
  | string (value : String)
  deriving DecidableEq

structure Slice where
  start : Option Int
  stop : Option Int
  step : Int
  deriving DecidableEq

/-- Where a query in a filter begins: at the document, or at the node under test. -/
inductive Origin where
  | root
  | current
  deriving DecidableEq

mutual

inductive Selector where
  | name (key : String)
  | index (position : Int)
  | wildcard
  | slice (slice : Slice)
  | filter (condition : Filter)

/-- A step of a query: selectors for each node, or for each node and all its descendants. -/
structure Segment where
  descendant : Bool
  selectors : List Selector

inductive Filter where
  | literal (value : Literal)
  | query (origin : Origin) (segments : List Segment)
  | not (operand : Filter)
  | binary (op : Operator) (left right : Filter)
  | call (name : String) (args : List Filter)

end

abbrev Query := List Segment

/-- Induction on a filter by its operands, its arguments, and the filters of its query. -/
theorem Filter.induction {motive : Filter → Prop} (literal : ∀ value, motive (.literal value))
    (query : ∀ origin segments,
      (∀ s ∈ segments, ∀ f, Selector.filter f ∈ s.selectors → motive f) →
        motive (.query origin segments))
    (not : ∀ operand, motive operand → motive (.not operand))
    (binary : ∀ op left right, motive left → motive right → motive (.binary op left right))
    (call : ∀ name args, (∀ arg ∈ args, motive arg) → motive (.call name args)) (f : Filter) :
    motive f := by
  cases f with
  | literal value => exact literal value
  | query origin segments =>
    exact query origin segments fun s hs f hf =>
      Filter.induction literal query not binary call f
  | not operand => exact not operand (Filter.induction literal query not binary call operand)
  | binary op left right =>
    exact binary op left right (Filter.induction literal query not binary call left)
      (Filter.induction literal query not binary call right)
  | call name args =>
    exact call name args fun arg harg => Filter.induction literal query not binary call arg
termination_by sizeOf f
decreasing_by
  · have hf' := List.sizeOf_lt_of_mem hf
    have hs' := List.sizeOf_lt_of_mem hs
    cases s
    simp only [Selector.filter.sizeOf_spec, Segment.mk.sizeOf_spec, Filter.query.sizeOf_spec] at *
    omega
  · simp only [Filter.not.sizeOf_spec]
    omega
  · simp only [Filter.binary.sizeOf_spec]
    omega
  · simp only [Filter.binary.sizeOf_spec]
    omega
  · have := List.sizeOf_lt_of_mem harg
    simp only [Filter.call.sizeOf_spec]
    omega

def Selector.isSingular : Selector → Bool
  | .name _ | .index _ => true
  | _ => false

def Segment.isSingular (s : Segment) : Bool :=
  !s.descendant && match s.selectors with
    | [selector] => selector.isSingular
    | _ => false

/-- A query that selects at most one node, whatever the document. -/
def Query.isSingular (q : Query) : Bool := q.all Segment.isSingular

/-! ### Equality -/

/-- Equality of numbers by value: the two zeros are equal, and what is no number equals
nothing, itself included. -/
def Numeral.same : Numeral → Numeral → Bool
  | .finite x, .finite y => x.order y == .eq
  | .infinite a, .infinite b => a == b
  | _, _ => false

def Literal.same : Literal → Literal → Bool
  | .null, .null => true
  | .bool a, .bool b => a == b
  | .number x, .number y => x.same y
  | .string a, .string b => a == b
  | _, _ => false

mutual

def Selector.same : Selector → Selector → Bool
  | .name a, .name b => a == b
  | .index a, .index b => a == b
  | .wildcard, .wildcard => true
  | .slice a, .slice b => a == b
  | .filter a, .filter b => a.same b
  | _, _ => false

def Selector.allSame : List Selector → List Selector → Bool
  | [], [] => true
  | a :: as, b :: bs => a.same b && Selector.allSame as bs
  | _, _ => false

def Segment.same : Segment → Segment → Bool
  | ⟨d, ss⟩, ⟨e, ts⟩ => d == e && Selector.allSame ss ts

def Segment.allSame : List Segment → List Segment → Bool
  | [], [] => true
  | a :: as, b :: bs => a.same b && Segment.allSame as bs
  | _, _ => false

def Filter.same : Filter → Filter → Bool
  | .literal a, .literal b => a.same b
  | .query o ss, .query p ts => o == p && Segment.allSame ss ts
  | .not a, .not b => a.same b
  | .binary o a b, .binary p c d => o == p && a.same c && b.same d
  | .call m as, .call n bs => m == n && Filter.allSame as bs
  | _, _ => false

def Filter.allSame : List Filter → List Filter → Bool
  | [], [] => true
  | a :: as, b :: bs => a.same b && Filter.allSame as bs
  | _, _ => false

end

instance : BEq Query := ⟨Segment.allSame⟩

end JsonQuery
