import JsonQuery.Engine.Basic
import JsonQuery.Program.Listing

/-!
The parts of registries, filters and engines written out for whoever looks for a mistake: each
thing as the name of its kind with its parts in parentheses or braces.
-/

namespace JsonQuery

namespace Inspection

def tuple (kind : String) (parts : List String) : String :=
  kind ++ "(" ++ ", ".intercalate parts ++ ")"

/-- A kind with its parts by name. -/
def record (kind : String) (parts : List (String × String)) : String :=
  kind ++ " \x7b " ++ ", ".intercalate (parts.map fun (name, text) => name ++ ": " ++ text) ++
    " \x7d"

/-- The same where some parts are left out. -/
def openRecord (kind : String) (parts : List (String × String)) : String :=
  kind ++ " \x7b " ++ String.join (parts.map fun (name, text) => name ++ ": " ++ text ++ ", ") ++
    ".. \x7d"

def list (items : List String) : String := "[" ++ ", ".intercalate items ++ "]"

def option : Option String → String
  | none => "None"
  | some text => tuple "Some" [text]

end Inspection

open Inspection

def Operator.kindText : Operator → String
  | .or => "Or"
  | .and => "And"
  | .equal => "Equal"
  | .notEqual => "NotEqual"
  | .less => "LessThan"
  | .lessEqual => "LessThanOrEqual"
  | .greater => "GreaterThan"
  | .greaterEqual => "GreaterThanOrEqual"

mutual

def Json.inspect : Json → String
  | .null => "Null"
  | .bool b => tuple "Bool" [toString b]
  | .number x => tuple "Number" [(Json.number x).text]
  | .string s => tuple "String" [Quoted.quote s]
  | .array items => "Array " ++ list (Json.inspectItems items)
  | .object members =>
    "Object \x7b" ++ ", ".intercalate (Json.inspectMembers members) ++ "\x7d"

def Json.inspectItems : List Json → List String
  | [] => []
  | item :: items => item.inspect :: Json.inspectItems items

def Json.inspectMembers : List (String × Json) → List String
  | [] => []
  | (name, value) :: members =>
    (Quoted.quote name ++ ": " ++ value.inspect) :: Json.inspectMembers members

end

def Instruction.inspect : Instruction → String
  | .descend => "Descend"
  | .blockBegin target => tuple "SegmentBegin" [toString target]
  | .blockEnd => "SegmentEnd"
  | .selectName c => tuple "SelectName" [toString c]
  | .selectIndex c => tuple "SelectIndex" [toString c]
  | .selectWildcard => "SelectWildcard"
  | .selectArrayAll => "SelectArrayAll"
  | .slice opcode c => tuple ("Slice" ++ (opcode.mnemonic.drop 6).toString) [toString c]
  | .sliceEmpty => "SliceEmpty"
  | .selectFilter c => tuple "SelectFilter" [toString c]

def SliceNumbers.inspect (n : SliceNumbers) : String :=
  record "SlicePlan"
    [("start", toString n.start), ("end", toString n.stop), ("step", toString n.step)]

mutual

def Condition.inspect : Condition → String
  | .literal value => tuple "Literal" [value.inspect]
  | .query origin program =>
    record "Query"
      [("absolute", toString (decide (origin = .root))), ("program", program.inspect)]
  | .not operand => tuple "Not" [operand.inspect]
  | .and left right => tuple "And" [left.inspect, right.inspect]
  | .or left right => tuple "Or" [left.inspect, right.inspect]
  | .compare op left right =>
    record "Compare" [("op", op.kindText), ("left", left.inspect), ("right", right.inspect)]
  | .call name _ args =>
    tuple "Call"
      [openRecord "BoundCall"
        [("name", Quoted.quote name), ("args", list (Condition.inspectAll args))]]

def Condition.inspectAll : List Condition → List String
  | [] => []
  | f :: fs => f.inspect :: Condition.inspectAll fs

def Constant.inspect : Constant → String
  | .name key => tuple "Name" [Quoted.quote key]
  | .index position => tuple "Index" [toString position]
  | .slice numbers => tuple "Slice" [numbers.inspect]
  | .filter condition => tuple "Filter" [condition.inspect]

def Constant.inspectAll : List Constant → List String
  | [] => []
  | c :: cs => c.inspect :: Constant.inspectAll cs

def Program.inspect : Program → String
  | ⟨code, constants, source⟩ =>
    record "Program"
      [("instructions", list (code.map Instruction.inspect)),
        ("constants", list (Constant.inspectAll constants)),
        ("source", option (source.map Quoted.quote))]

end

def Definition.inspect (d : Definition) : String :=
  record "FunctionDefinition"
    [("has_validator", toString d.check.isSome), ("has_evaluator", toString d.evaluate.isSome)]

def Registry.inspect (r : Registry) : String :=
  record "FunctionRegistry" [("functions", list (r.names.map Quoted.quote))]

def Capacities.inspect (c : Capacities) : String :=
  record "EngineConfig"
    [("program_cache_capacity", toString c.programs),
      ("regex_cache_capacity", toString c.patterns)]

def CacheCounts.inspect (c : CacheCounts) : String :=
  record "CacheStats"
    [("hits", toString c.hits), ("misses", toString c.misses), ("entries", toString c.entries)]

def Engine.inspect (e : Engine) : String :=
  record "JsonPathEngine"
    [("registry", e.registry.inspect), ("config", e.capacities.inspect),
      ("cache", e.counts.inspect)]

end JsonQuery
