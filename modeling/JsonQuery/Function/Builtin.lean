import JsonQuery.Function.Basic
import JsonQuery.Regex.Pattern

/-!
The functions that every query can call: `length`, `count`, `value`, `match` and `search`.
-/

namespace JsonQuery.Builtin

/-! ### Checks -/

def requireArity (name : String) (args : List Filter) (expected : Nat) : Except UsageError Unit :=
  if args.length = expected then .ok () else .error (.wrongArity name expected args.length)

/-- A result that is a value is no condition by itself. -/
def requireComparison (name : String) (usage : Usage) (compared : Bool) : Except UsageError Unit :=
  if !compared && usage = .logical then .error (.resultMustBeCompared name) else .ok ()

def requireQuery (name : String) : List Filter → Except UsageError Unit
  | .query _ _ :: _ => .ok ()
  | _ => .error (.requiresQuery name)

/-- An argument that is a query has to be singular. -/
def requireSingular (name : String) : List Filter → Except UsageError Unit
  | .query _ segments :: _ =>
    if Query.isSingular segments then .ok () else .error (.requiresSingularQuery name)
  | _ => .ok ()

/-! ### Functions -/

/-- The characters of a string, the elements of an array or the members of an object. -/
def lengthOf : List Value → Value
  | [arg] =>
    match arg.single? with
    | some (.string s) => .count s.length
    | some (.array items) => .count items.length
    | some (.object members) => .count members.length
    | _ => .nothing
  | _ => .nothing

def length : Function where
  check args usage compared := do
    requireArity "length" args 1
    requireComparison "length" usage compared
    requireSingular "length" args
  evaluate := lengthOf

def countOf : List Value → Value
  | [.nodes list] => .count list.length
  | _ => .nothing

def count : Function where
  check args usage compared := do
    requireArity "count" args 1
    requireComparison "count" usage compared
    requireQuery "count" args
  evaluate := countOf

/-- The only node of a query; what is no list of nodes stays as it is. -/
def valueOf : List Value → Value
  | [.nodes [node]] => .scalar node
  | [.nodes _] => .nothing
  | [arg] => arg
  | _ => .nothing

def value : Function where
  check args usage compared := do
    requireArity "value" args 1
    requireComparison "value" usage compared
    requireQuery "value" args
  evaluate := valueOf

def patternName : PatternUse → String
  | .whole => "match"
  | .part => "search"

/-- The text and the pattern as it is read, if both arguments are strings. -/
def patternArgs (use : PatternUse) : List Value → Option (String × String)
  | [text, pattern] => do return (← text.string?, Pattern.final use (← pattern.string?))
  | _ => none

def matchValue (text : String) : Option Regex → Value
  | some regex => .bool (regex.isMatch text)
  | none => .nothing

def matchOf (use : PatternUse) (args : List Value) : Value :=
  match patternArgs use args with
  | some (text, pattern) => matchValue text (Regex.parse? pattern)
  | none => .nothing

def pattern (use : PatternUse) : Function where
  check args _ compared := do
    requireArity (patternName use) args 2
    if compared then .error (.resultMustNotBeCompared (patternName use)) else .ok ()
  evaluate := matchOf use
  patterns args := ((patternArgs use args).map (·.2)).toList

end Builtin

def Registry.standard : Registry where
  entries := [("length", Builtin.length), ("count", Builtin.count), ("value", Builtin.value),
    ("match", Builtin.pattern .whole), ("search", Builtin.pattern .part)]

end JsonQuery
