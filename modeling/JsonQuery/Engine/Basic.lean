import JsonQuery.Engine.PatternCache

/-!
An engine compiles and runs queries against one registry and keeps the programs of the queries
that were used last. Queries that fail are not kept. It counts how often it found a program and
how often it did not; without room for programs it counts nothing.
-/

namespace JsonQuery

structure Capacities where
  /-- The number of programs; with none, every query is compiled anew. -/
  programs : Nat := 256
  patterns : Nat := PatternCache.defaultCapacity

namespace Capacities

def withoutPrograms : Capacities := { programs := 0 }

def keepsPrograms (c : Capacities) : Bool := 0 < c.programs

end Capacities

/-- The result of one compilation. The number tells it from the results of all others, even of
the same query. -/
structure Compilation where
  number : Nat
  program : Program

structure CacheCounts where
  hits : Nat
  misses : Nat
  entries : Nat
  deriving DecidableEq

/-- The fraction of all lookups that found a program, and zero if there were none. -/
def CacheCounts.hitRatio (c : CacheCounts) : Double :=
  if c.hits + c.misses = 0 then .zero false
  else (Double.ofRatio? false c.hits (c.hits + c.misses)).getD (.zero false)

structure Engine where
  registry : Registry
  capacities : Capacities
  kept : Lru String Compilation
  hits : Nat := 0
  misses : Nat := 0
  /-- The number of compilations so far. -/
  compilations : Nat := 0

namespace Engine

def new (registry : Registry) (capacities : Capacities) : Engine :=
  { registry, capacities, kept := { capacity := capacities.programs } }

/-- Compiles a query, whatever is kept. -/
def compileAnew (e : Engine) (text : String) : Except QueryError Compilation × Engine :=
  match e.registry.prepare text with
  | .error error => (.error error, e)
  | .ok program => (.ok ⟨e.compilations, program⟩, { e with compilations := e.compilations + 1 })

def keep (e : Engine) (text : String) : Except QueryError Compilation → Engine
  | .ok compilation => { e with kept := e.kept.insert text compilation }
  | .error _ => e

/-- Compiles a query, or finds the program that is kept. -/
def compile (e : Engine) (text : String) : Except QueryError Compilation × Engine :=
  if e.capacities.keepsPrograms then
    match e.kept.get? text with
    | some (compilation, kept) => (.ok compilation, { e with kept, hits := e.hits + 1 })
    | none =>
      let (result, e) := { e with misses := e.misses + 1 }.compileAnew text
      (result, e.keep text result)
  else e.compileAnew text

def query (e : Engine) (text : String) (document : Json) :
    Except QueryError (List Json) × Engine :=
  let (result, e) := e.compile text
  (result.map fun compilation => compilation.program.run document, e)

def counts (e : Engine) : CacheCounts := ⟨e.hits, e.misses, e.kept.size⟩

/-- Forgets all programs, but not the counts. -/
def clear (e : Engine) : Engine := { e with kept := e.kept.clear }

end Engine
end JsonQuery
