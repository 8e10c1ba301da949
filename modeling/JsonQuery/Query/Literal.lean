import JsonQuery.Json.Basic
import JsonQuery.Query.Basic

/-!
The document that a literal of a filter stands for.
-/

namespace JsonQuery

/-- The value of a literal. A number without fraction is an integer as long as doubles hold
all integers of its size; documents hold no numbers that are not finite. -/
def Literal.json : Literal → Json
  | .null => .null
  | .bool b => .bool b
  | .number (.finite x) =>
    match x.toInt? with
    | some n => .number (.int n)
    | none => .number (.real x)
  | .number _ => .null
  | .string s => .string s

end JsonQuery
