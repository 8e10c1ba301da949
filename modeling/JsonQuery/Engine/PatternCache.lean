import JsonQuery.Engine.Lru
import JsonQuery.Function.Builtin
import JsonQuery.Program.OfText

/-!
A bounded cache of regular expressions, by the text they were read from. What is not valid
is never kept. The functions that apply patterns share one cache, and no result depends on
what it holds.
-/

namespace JsonQuery

structure PatternCache where
  regexes : Lru String Regex

namespace PatternCache

def defaultCapacity : Nat := 128

/-- An empty cache, with room for at least one expression. -/
def ofCapacity (capacity : Nat) : PatternCache := ⟨{ capacity := max 1 capacity }⟩

def capacity (c : PatternCache) : Nat := c.regexes.capacity

def size (c : PatternCache) : Nat := c.regexes.size

def isEmpty (c : PatternCache) : Bool := c.regexes.isEmpty

def clear (c : PatternCache) : PatternCache := ⟨c.regexes.clear⟩

/-- The expression that a text denotes: the one that is kept, or else a new one, which is then
kept if the text is valid. -/
def get (c : PatternCache) (pattern : String) : Option Regex × PatternCache :=
  match c.regexes.get? pattern with
  | some (regex, regexes) => (some regex, ⟨regexes⟩)
  | none =>
    match Regex.parse? pattern with
    | some regex => (some regex, ⟨c.regexes.insert pattern regex⟩)
    | none => (none, c)

def evaluate (c : PatternCache) (use : PatternUse) (args : List Value) : Value × PatternCache :=
  match Builtin.patternArgs use args with
  | some (text, pattern) => ((Builtin.matchValue text (c.get pattern).1), (c.get pattern).2)
  | none => (.nothing, c)

def afterLookups (c : PatternCache) (patterns : List String) : PatternCache :=
  patterns.foldl (fun c pattern => (c.get pattern).2) c

def query (c : PatternCache) (text : String) (document : Json) :
    Except QueryError (List Json) × PatternCache :=
  match Registry.standard.prepare text with
  | .error e => (.error e, c)
  | .ok program =>
    (.ok (program.run document), c.afterLookups (program.lookups document document))

end PatternCache
end JsonQuery
