import JsonQuery.Function.Basic

/-!
The rules of usage: what may stand as a condition, as the operand of a comparison, and as an
argument. The first expression that breaks a rule is reported, in the order of the text.
-/

namespace JsonQuery.Registry

mutual

def checkSelector (r : Registry) : Selector → Except UsageError Unit
  | .filter condition => r.checkFilter .logical false condition
  | _ => .ok ()

def checkSelectors (r : Registry) : List Selector → Except UsageError Unit
  | [] => .ok ()
  | s :: ss => do r.checkSelector s; r.checkSelectors ss

def checkSegments (r : Registry) : List Segment → Except UsageError Unit
  | [] => .ok ()
  | ⟨_, selectors⟩ :: ss => do r.checkSelectors selectors; r.checkSegments ss

/-- Checks an expression where it stands; `compared` says that it is itself an operand of a
comparison. -/
def checkFilter (r : Registry) (usage : Usage) (compared : Bool) :
    Filter → Except UsageError Unit
  | .literal _ => if usage = .logical then .error .literalMustBeCompared else .ok ()
  | .query _ segments => do
    if compared && !Query.isSingular segments then .error .comparisonRequiresSingularQuery
    else r.checkSegments segments
  | .not operand => r.checkFilter .logical false operand
  | .binary op left right =>
    if op.isLogical then do
      r.checkFilter .logical false left
      r.checkFilter .logical false right
    else do
      r.checkFilter .comparisonOperand true left
      r.checkFilter .comparisonOperand true right
  | .call name args =>
    match r.get? name with
    | none => .error (.unknownFunction name)
    | some f => do
      f.check args usage compared
      r.checkArguments args

def checkArguments (r : Registry) : List Filter → Except UsageError Unit
  | [] => .ok ()
  | arg :: args => do r.checkFilter .argument false arg; r.checkArguments args

end

def checkUsage (r : Registry) (q : Query) : Except UsageError Unit := r.checkSegments q

end JsonQuery.Registry
