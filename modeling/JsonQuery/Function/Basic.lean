import JsonQuery.Query.Text
import JsonQuery.Text.Character
import JsonQuery.Text.Quoted
import JsonQuery.Value.Basic

/-!
Functions that filters can call, and registries of them. A function checks each call before it
is compiled and computes its result from the values of its arguments. A registry keeps its
functions in the order of their registration, each under a name of its own.
-/

namespace JsonQuery

/-- Where in a filter an expression stands: as a condition, beside a comparison operator, or
as an argument. -/
inductive Usage where
  | logical
  | comparisonOperand
  | argument
  deriving DecidableEq

inductive UsageError where
  | literalMustBeCompared
  | comparisonRequiresSingularQuery
  | unknownFunction (name : String)
  | wrongArity (name : String) (expected actual : Nat)
  | resultMustBeCompared (name : String)
  | resultMustNotBeCompared (name : String)
  | requiresSingularQuery (name : String)
  | requiresQuery (name : String)
  /-- A rule that a function brought along. -/
  | custom (name message : String)
  deriving DecidableEq

namespace UsageError

def inQuotes (name : String) : String := "'" ++ name ++ "'"

def message : UsageError → String
  | .literalMustBeCompared => "literal must be compared"
  | .comparisonRequiresSingularQuery => "comparison requires a singular query"
  | .unknownFunction name => "unknown function " ++ inQuotes name
  | .wrongArity name expected actual =>
    "function " ++ inQuotes name ++ " expects " ++ toString expected ++ " argument(s), got " ++
      toString actual
  | .resultMustBeCompared name => "result of function " ++ inQuotes name ++ " must be compared"
  | .resultMustNotBeCompared name =>
    "result of function " ++ inQuotes name ++ " must not be compared"
  | .requiresSingularQuery name =>
    "function " ++ inQuotes name ++ " requires a singular query argument"
  | .requiresQuery name => "function " ++ inQuotes name ++ " requires a query argument"
  | .custom name text => "function " ++ inQuotes name ++ ": " ++ text

end UsageError

/-- The check of a call: its arguments, where it stands, and whether it is compared. -/
abbrev CallCheck := List Filter → Usage → Bool → Except UsageError Unit

structure Function where
  check : CallCheck
  evaluate : List Value → Value
  /-- The patterns that evaluation looks up, as they are read. -/
  patterns : List Value → List String := fun _ => []

/-- A function in the making: either part may still be missing. -/
structure Definition where
  check : Option CallCheck := none
  evaluate : Option (List Value → Value) := none

namespace Definition

/-- A definition that can evaluate is a function; without a check it accepts every call. -/
def function? (d : Definition) : Option Function :=
  d.evaluate.map fun evaluate =>
    { check := d.check.getD fun _ _ _ => .ok (), evaluate }

end Definition

inductive RegistrationError where
  | badName (name : String)
  | noEvaluator (name : String)
  | alreadyExists (name : String)
  deriving DecidableEq

def RegistrationError.message : RegistrationError → String
  | .badName name => "invalid function name " ++ UsageError.inQuotes name
  | .noEvaluator name => "function " ++ UsageError.inQuotes name ++ " has no evaluator"
  | .alreadyExists name =>
    "function " ++ UsageError.inQuotes name ++ " is already registered"

/-- Whether a name can stand before a parenthesis in a filter. -/
def isFunctionName (name : String) : Bool :=
  match name.toList with
  | [] => false
  | c :: rest => startsName c && rest.all continuesName

/-- Functions by name, in the order of registration. -/
structure Registry where
  entries : List (String × Function) := []

namespace Registry

def empty : Registry := {}

def get? (r : Registry) (name : String) : Option Function := r.entries.lookup name

def contains (r : Registry) (name : String) : Bool := (r.get? name).isSome

def names (r : Registry) : List String := r.entries.map (·.1)

def size (r : Registry) : Nat := r.entries.length

def add (r : Registry) (name : String) (f : Function) : Except RegistrationError Registry :=
  if r.contains name then .error (.alreadyExists name)
  else .ok ⟨r.entries ++ [(name, f)]⟩

def register (r : Registry) (name : String) (f : Function) : Except RegistrationError Registry :=
  if isFunctionName name then r.add name f else .error (.badName name)

def define (r : Registry) (name : String) (d : Definition) : Except RegistrationError Registry :=
  if isFunctionName name then
    match d.function? with
    | some f => r.add name f
    | none => .error (.noEvaluator name)
  else .error (.badName name)

end Registry
end JsonQuery
