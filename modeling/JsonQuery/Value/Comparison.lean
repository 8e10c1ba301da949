import JsonQuery.Query.Basic
import JsonQuery.Value.Basic

/-!
Comparison. Two documents are equal when they have the same structure, numbers being compared
as doubles and objects without regard to the order of their members; numbers are ordered among
themselves, and so are strings. Two values compare when some pair of their parts does.
-/

namespace JsonQuery

namespace Json

mutual

def equal : Json → Json → Bool
  | .null, .null => true
  | .bool a, .bool b => a == b
  | .number a, .number b => a.toDouble.order b.toDouble == .eq
  | .string a, .string b => a == b
  | .array as, .array bs => itemsEqual as bs
  | .object as, .object bs => as.length == bs.length && membersEqual as bs
  | _, _ => false

def itemsEqual : List Json → List Json → Bool
  | [], [] => true
  | a :: as, b :: bs => a.equal b && itemsEqual as bs
  | _, _ => false

/-- Whether each member on the left has an equal one of its name on the right. -/
def membersEqual : List (String × Json) → List (String × Json) → Bool
  | [], _ => true
  | (name, a) :: as, bs =>
    (match bs.lookup name with
      | some b => a.equal b
      | none => false) && membersEqual as bs

end

/-- The order of two numbers by value, and of two strings by their characters. Nothing else
is ordered. -/
def order? : Json → Json → Option Ordering
  | .number a, .number b => some (a.toDouble.order b.toDouble)
  | .string a, .string b => some (compare a b)
  | _, _ => none

end Json

namespace Operator

/-- Equality of parts; the absent one equals only itself. -/
def partsEqual : Option Json → Option Json → Bool
  | some a, some b => a.equal b
  | none, none => true
  | _, _ => false

def partsOrder? (a b : Option Json) : Option Ordering := do (← a).order? (← b)

/-- Whether an operator holds of a pair of parts. The logical operators hold of none. -/
def holds (op : Operator) (a b : Option Json) : Bool :=
  match op with
  | .equal => partsEqual a b
  | .notEqual => !partsEqual a b
  | .less => partsOrder? a b == some .lt
  | .greater => partsOrder? a b == some .gt
  | .lessEqual => partsEqual a b || partsOrder? a b == some .lt
  | .greaterEqual => partsEqual a b || partsOrder? a b == some .gt
  | .and | .or => false

/-- Whether an operator holds of two values: it holds of some part of the one with some part
of the other. -/
def compare (op : Operator) (left right : Value) : Bool :=
  -- a list without nodes has no parts, and equals only what is absent too
  if left.size = 0 ∨ right.size = 0 then
    match op with
    | .equal => left.isAbsent && right.isAbsent
    | .notEqual => !(left.isAbsent && right.isAbsent)
    | _ => false
  else
    left.parts.any fun a => right.parts.any fun b => op.holds a b

end Operator
end JsonQuery
