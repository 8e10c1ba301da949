import JsonQuery.Unicode.Property

/-!
Regular expressions and what they match.

An expression takes each place of a text to the places a match that begins there can end at.
`Matches` says so one place at a time; `ends` computes it for a whole set of places, given as
an ascending list, so that the work stays proportional to the text for each step.
-/

namespace JsonQuery

inductive Look where
  | textStart
  | textEnd
  | lineStart (crlf : Bool)
  | lineEnd (crlf : Bool)
  | wordBoundary (unicode : Bool)
  | notWordBoundary (unicode : Bool)
  | wordStart (unicode : Bool)
  | wordEnd (unicode : Bool)
  | wordStartHalf (unicode : Bool)
  | wordEndHalf (unicode : Bool)
  deriving DecidableEq

inductive Regex where
  | empty
  | char (set : Unicode.Ranges)
  | look (condition : Look)
  | seq (first second : Regex)
  | alt (first second : Regex)
  /-- What stands between parentheses, numbered or not. -/
  | group (numbered : Bool) (body : Regex)
  /-- From `least` to `most` repetitions; without `most`, any number from `least` on. -/
  | repetition (body : Regex) (least : Nat) (most : Option Nat)

namespace Look

def isWord (unicode : Bool) (c : Option Char) : Bool :=
  c.any fun c =>
    if c.toNat < 0x80 then c.isAlphanum || c == '_'
    else unicode && Unicode.wordChars.contains c.toNat

/-- Whether a condition holds between two characters; at either end of the text there is
none. -/
def holds (condition : Look) (before after : Option Char) : Bool :=
  match condition with
  | .textStart => before.isNone
  | .textEnd => after.isNone
  | .lineStart false => before.all (· == '\n')
  | .lineEnd false => after.all (· == '\n')
  | .lineStart true =>
    before.all fun c => c == '\n' || (c == '\r' && after != some '\n')
  | .lineEnd true =>
    after.all fun c => c == '\r' || (c == '\n' && before != some '\r')
  | .wordBoundary u => isWord u before != isWord u after
  | .notWordBoundary u => isWord u before == isWord u after
  | .wordStart u => !isWord u before && isWord u after
  | .wordEnd u => isWord u before && !isWord u after
  | .wordStartHalf u => !isWord u before
  | .wordEndHalf u => !isWord u after

def holdsAt (condition : Look) (text : Array Char) (p : Nat) : Bool :=
  condition.holds (if p = 0 then none else text[p - 1]?) text[p]?

end Look

namespace Regex

/-- A match of an expression in a text, by its first place and the place after it. -/
inductive Matches (text : Array Char) : Regex → Nat → Nat → Prop where
  | empty {p} : Matches text .empty p p
  | char {set p c} : text[p]? = some c → set.contains c.toNat = true →
      Matches text (.char set) p (p + 1)
  | look {condition p} : condition.holdsAt text p = true → Matches text (.look condition) p p
  | seq {a b p q r} : Matches text a p q → Matches text b q r → Matches text (.seq a b) p r
  | first {a b p q} : Matches text a p q → Matches text (.alt a b) p q
  | second {a b p q} : Matches text b p q → Matches text (.alt a b) p q
  | group {numbered a p q} : Matches text a p q → Matches text (.group numbered a) p q
  | none {a most p} : Matches text (.repetition a 0 most) p p
  | one {a least most p q r} : most ≠ some 0 → Matches text a p q →
      Matches text (.repetition a (least - 1) (most.map (· - 1))) q r →
      Matches text (.repetition a least most) p r

/-! ### Sets of places -/

/-- The places in either of two ascending lists. -/
def merge : List Nat → List Nat → List Nat
  | [], b => b
  | a, [] => a
  | x :: a, y :: b =>
    if x < y then x :: merge a (y :: b)
    else if y < x then y :: merge (x :: a) b
    else x :: merge a b

def minus : List Nat → List Nat → List Nat
  | [], _ => []
  | a, [] => a
  | x :: a, y :: b =>
    if x < y then x :: minus a (y :: b)
    else if y < x then minus (x :: a) b
    else minus a b

/-- The places reached by exactly `n` steps; a set that a step leaves alone is final. -/
def iterate (step : List Nat → List Nat) : Nat → List Nat → List Nat
  | 0, places => places
  | n + 1, places =>
    let next := step places
    if next = places then places else iterate step n next

/-- The places reached by at most `n` steps: those seen before, and those that `new` ones
lead to. -/
def closure (step : List Nat → List Nat) : Nat → List Nat → List Nat → List Nat
  | 0, seen, _ => seen
  | n + 1, seen, new =>
    match minus (step new) seen with
    | [] => seen
    | next => closure step n (merge seen next) next

/-- The places where a match that begins at one of the given places can end. A text of `n`
characters has `n + 1` places, and no place is worth reaching twice. -/
def ends (text : Array Char) : Regex → List Nat → List Nat
  | .empty, places => places
  | .char set, places =>
    places.filterMap fun p =>
      if text[p]?.any fun c => set.contains c.toNat then some (p + 1) else none
  | .look condition, places => places.filter (condition.holdsAt text)
  | .seq a b, places => ends text b (ends text a places)
  | .alt a b, places => merge (ends text a places) (ends text b places)
  | .group _ a, places => ends text a places
  | .repetition a least most, places =>
    let start := iterate (ends text a) least places
    let rounds := (most.map (· - least)).getD (text.size + 1)
    closure (ends text a) (min rounds (text.size + 1)) start start

def isMatch (r : Regex) (text : String) : Bool :=
  let text := text.toList.toArray
  !(r.ends text (List.range (text.size + 1))).isEmpty

end Regex
end JsonQuery
