import JsonQuery.Json.Text

/-!
The values of filter expressions. A list of nodes is never the same as a scalar, even when it
holds one node, and having no value is not the same as being `null`.
-/

namespace JsonQuery

inductive Value where
  | nothing
  | scalar (value : Json)
  | nodes (list : List Json)

namespace Value

def bool (b : Bool) : Value := .scalar (.bool b)

def count (n : Nat) : Value := .scalar (.number (.int n))

/-- Whether a value counts as true: a list with nodes in it, or a scalar other than `null`
and `false`. -/
def isTrue : Value → Bool
  | .nothing => false
  | .scalar .null => false
  | .scalar (.bool b) => b
  | .scalar _ => true
  | .nodes list => !list.isEmpty

/-- What takes part in a comparison: each node of a list, or the value itself, where `none`
stands for having no value. -/
def parts : Value → List (Option Json)
  | .nothing => [none]
  | .scalar value => [some value]
  | .nodes list => list.map some

def size : Value → Nat
  | .nodes list => list.length
  | _ => 1

theorem length_parts (v : Value) : v.parts.length = v.size := by
  cases v <;> simp [parts, size]

def isNothing : Value → Bool
  | .nothing => true
  | _ => false

def isNodes : Value → Bool
  | .nodes _ => true
  | _ => false

def isAbsent : Value → Bool
  | .nothing => true
  | .scalar _ => false
  | .nodes list => list.isEmpty

/-- The scalar, or the only node of a list. -/
def single? : Value → Option Json
  | .scalar value => some value
  | .nodes [node] => some node
  | _ => none

def string? (v : Value) : Option String :=
  match v.single? with
  | some (.string s) => some s
  | _ => none

def text : Value → String
  | .nothing => "Nothing"
  | .scalar value => value.text
  | .nodes list => .ofList ('[' :: [',', ' '].intercalate (list.map Json.chars) ++ [']'])

end Value
end JsonQuery
