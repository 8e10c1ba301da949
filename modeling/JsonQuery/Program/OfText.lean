import JsonQuery.Evaluation
import JsonQuery.Program.OfQuery
import JsonQuery.Query.Reading

/-!
Queries given as text: read, checked, compiled and run, with one type for all that can go
wrong on the way.
-/

namespace JsonQuery

inductive QueryError where
  | parse (error : ParseError)
  | compile (query : String) (error : CompileError)
  | registration (error : RegistrationError)

namespace QueryError

def message : QueryError → String
  | .parse error => error.message
  | .compile query error => "invalid JSONPath query " ++ Quoted.quote query ++ ": " ++ error.message
  | .registration error => error.message

def query? : QueryError → Option String
  | .parse error => some error.query
  | .compile query _ => some query
  | .registration _ => none

end QueryError

namespace Registry

/-- Reads, checks and compiles a query. Its text is the source of the program. -/
def prepare (r : Registry) (text : String) : Except QueryError Program := do
  let query ← (Query.parse text).mapError .parse
  let program ← (r.compile query).mapError (.compile text)
  return program.setSource text

def query (r : Registry) (text : String) (document : Json) : Except QueryError (List Json) := do
  return (← r.prepare text).run document

end Registry
end JsonQuery
