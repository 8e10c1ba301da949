import JsonQuery.Function.Usage
import JsonQuery.Program.Builder
import JsonQuery.Query.Literal

/-!
Compiling queries. Each segment becomes a block with an instruction for each selector; the
queries within filters become programs, and calls are bound to the functions they name.
-/

namespace JsonQuery

namespace Builder

def appendWith (b : Builder) (constant : Constant) (instruction : Nat → Instruction) :
    Except CompileError Builder :=
  match b.intern constant with
  | (.ok c, b) => .ok (b.append (instruction c)).2
  | (.error e, _) => .error e

def appendSlice (b : Builder) (s : Slice) : Except CompileError Builder :=
  match s.form with
  | .nothing => .ok (b.append .sliceEmpty).2
  | .everything => .ok (b.append .selectArrayAll).2
  | .opcode opcode => b.appendWith (.slice s.numbers) (.slice opcode)

def startSegment (b : Builder) (descendant : Bool) : Builder :=
  (if descendant then (b.append .descend).2 else b).openBlock.2

def finishSegment (b : Builder) : Except CompileError Builder :=
  match b.closeBlock with
  | (.ok _, b) => .ok b
  | (.error e, _) => .error e

end Builder

namespace Registry

mutual

def assembleSelector (r : Registry) (b : Builder) : Selector → Except CompileError Builder
  | .name key => b.appendWith (.name key) .selectName
  | .index position => b.appendWith (.index position) .selectIndex
  | .wildcard => .ok (b.append .selectWildcard).2
  | .slice s => b.appendSlice s
  | .filter condition => do
    let condition ← r.assembleFilter condition
    b.appendWith (.filter condition) .selectFilter

def assembleSelectors (r : Registry) (b : Builder) : List Selector → Except CompileError Builder
  | [] => .ok b
  | s :: ss => do
    let b ← r.assembleSelector b s
    r.assembleSelectors b ss

def assembleSegments (r : Registry) (b : Builder) : List Segment → Except CompileError Builder
  | [] => .ok b
  | ⟨descendant, selectors⟩ :: ss => do
    let b ← r.assembleSelectors (b.startSegment descendant) selectors
    let b ← b.finishSegment
    r.assembleSegments b ss

def assembleFilter (r : Registry) : Filter → Except CompileError Condition
  | .literal value => .ok (.literal value.json)
  | .query origin segments => do
    let b ← r.assembleSegments {} segments
    let program ← b.program
    return .query origin (program.setSource (.ofList (Segment.charsOfAll segments)))
  | .not operand => do return .not (← r.assembleFilter operand)
  | .binary op left right => do
    let left ← r.assembleFilter left
    let right ← r.assembleFilter right
    match op with
    | .and => return .and left right
    | .or => return .or left right
    | op => return .compare op left right
  | .call name args =>
    match r.get? name with
    | none => .error (.unknownFunction name)
    | some f => do return .call name f (← r.assembleArguments args)

def assembleArguments (r : Registry) : List Filter → Except CompileError (List Condition)
  | [] => .ok []
  | arg :: args => do
    let arg ← r.assembleFilter arg
    return arg :: (← r.assembleArguments args)

end

/-- The program of a query that is not checked. Its canonical text is the source. -/
def assemble (r : Registry) (q : Query) : Except CompileError Program := do
  let b ← r.assembleSegments {} q
  return (← b.program).setSource (Query.text q)

def compile (r : Registry) (q : Query) : Except CompileError Program := do
  (r.checkUsage q).mapError .usage
  r.assemble q

end Registry
end JsonQuery
