import JsonQuery.Regex.Reading

/-!
Patterns of filters. In a filter a point stands for any character but a line feed and a
carriage return, so each point that is a construct of its own gives way to that set before a
pattern is read.
-/

namespace JsonQuery

/-- How a pattern applies to a text: to all of it, or to some part of it. -/
inductive PatternUse where
  | whole
  | part
  deriving DecidableEq

namespace Pattern

/-- What has been seen of a pattern: whether a backslash is pending, and whether a bracket is
open. -/
structure Scan where
  escaped : Bool := false
  bracketed : Bool := false
  deriving DecidableEq

def anyButLineEnd : List Char := "[^\\r\\n]".toList

def Scan.next (st : Scan) (c : Char) : Scan :=
  if st.escaped then { st with escaped := false }
  else if c = '\\' then { st with escaped := true }
  else if c = '[' then { st with bracketed := true }
  else if c = ']' then { st with bracketed := false }
  else st

def Scan.write (st : Scan) (c : Char) : List Char :=
  if c = '.' && !st.escaped && !st.bracketed then anyButLineEnd else [c]

def expand (st : Scan) : List Char → List Char
  | [] => []
  | c :: s => st.write c ++ expand (st.next c) s

/-- Expands the points that are neither escaped nor between brackets. -/
def normalize (pattern : String) : String := .ofList (expand {} pattern.toList)

/-- The pattern that is read: where the whole text has to match, anchors enclose it. -/
def final (use : PatternUse) (pattern : String) : String :=
  match use with
  | .whole => normalize ("^(?:" ++ pattern ++ ")$")
  | .part => normalize pattern

end Pattern
end JsonQuery
