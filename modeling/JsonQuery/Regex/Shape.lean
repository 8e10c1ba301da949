import JsonQuery.Regex.Basic
import JsonQuery.Unicode.ByteSequences

/-!
The shape of an expression: what is left of it once characters in a row have become a text,
alternatives that are single characters a set, and repetitions that say nothing have gone. An
automaton is built from the shape.
-/

namespace JsonQuery.Regex

inductive Shape where
  | empty
  | text (chars : List Nat)
  | set (ranges : Unicode.Ranges)
  | look (condition : Look)
  /-- A numbered group. -/
  | group (body : Shape)
  | seq (parts : List Shape)
  | alt (branches : List Shape)
  | repetition (body : Shape) (least : Nat) (most : Option Nat)

namespace Shape

/-! ### Lengths -/

mutual

/-- Whether nothing but the empty text can match. -/
def isBlank : Shape → Bool
  | .empty | .look _ => true
  | .text _ | .set _ => false
  | .group body => body.isBlank
  | .seq parts => areBlank parts
  | .alt branches => areBlank branches
  | .repetition body _ most => most.isSome && body.isBlank

def areBlank : List Shape → Bool
  | [] => true
  | s :: ss => s.isBlank && areBlank ss

end

mutual

/-- The least number of bytes of a match; none if nothing can match. -/
def leastBytes? : Shape → Option Nat
  | .empty | .look _ => some 0
  | .text chars => some (chars.map fun c => (Unicode.bytes c).length).sum
  | .set ranges => ranges.head?.map fun r => (Unicode.bytes r.1).length
  | .group body => body.leastBytes?
  | .seq parts => sumLeastBytes? parts
  | .alt branches => minLeastBytes? branches
  | .repetition body least _ => body.leastBytes?.map (· * least)

def sumLeastBytes? : List Shape → Option Nat
  | [] => some 0
  | s :: ss => return (← s.leastBytes?) + (← sumLeastBytes? ss)

def minLeastBytes? : List Shape → Option Nat
  | [] => none
  | [s] => s.leastBytes?
  | s :: ss => return min (← s.leastBytes?) (← minLeastBytes? ss)

end

/-! ### Conditions at the ends -/

mutual

/-- Whether every match begins where the text does; for `backward`, whether it ends where the
text does. -/
def isAnchored (backward : Bool) : Shape → Bool
  | .look condition => condition = if backward then .textEnd else .textStart
  | .group body => body.isAnchored backward
  | .seq parts => if backward then isAnchoredLast parts else isAnchoredFirst parts
  | .alt branches => areAnchored backward branches
  | .repetition body least _ => 0 < least && body.isAnchored backward
  | .empty | .text _ | .set _ => false

def isAnchoredFirst : List Shape → Bool
  | [] => false
  | s :: ss => s.isAnchored false || (s.isBlank && isAnchoredFirst ss)

def isAnchoredLast : List Shape → Bool
  | [] => false
  | s :: ss => isAnchoredLast ss || (areBlank ss && s.isAnchored true)

def areAnchored (backward : Bool) : List Shape → Bool
  | [] => true
  | s :: ss => s.isAnchored backward && areAnchored backward ss

end

/-! ### Equal shapes -/

mutual

/-- Whether two shapes are the same. A numbered group is the same as no other one. -/
def isSame : Shape → Shape → Bool
  | .empty, .empty => true
  | .text a, .text b => a == b
  | .set a, .set b => a == b
  | .look a, .look b => a = b
  | .seq a, .seq b => areSame a b
  | .alt a, .alt b => areSame a b
  | .repetition a l m, .repetition b l' m' => a.isSame b && l == l' && m == m'
  | _, _ => false

def areSame : List Shape → List Shape → Bool
  | [], [] => true
  | a :: as, b :: bs => a.isSame b && areSame as bs
  | _, _ => false

end

/-! ### Building shapes -/

/-- A set; that of a single character is a text. -/
def ofSet : Unicode.Ranges → Shape
  | [(a, b)] => if a = b then .text [a] else .set [(a, b)]
  | ranges => .set ranges

def parts : Shape → List Shape
  | .empty => []
  | .seq parts => parts
  | s => [s]

/-- Two sequences in a row; texts that meet become one. -/
def append : List Shape → List Shape → List Shape
  | [], b => b
  | [.text a], .text b :: rest => .text (a ++ b) :: rest
  | s :: a, b => s :: append a b

def ofParts : List Shape → Shape
  | [] => .empty
  | [s] => s
  | parts => .seq parts

def andThen (a b : Shape) : Shape := ofParts (append a.parts b.parts)

def branches : Shape → List Shape
  | .alt branches => branches
  | s => [s]

/-- The characters of a shape that matches single characters only. -/
def single? : Shape → Option Unicode.Ranges
  | .text [c] => some [(c, c)]
  | .set ranges => some ranges
  | _ => none

/-- Any of several shapes; if all match single characters only, they become a set. -/
def anyOfFew (shapes : List Shape) : Shape :=
  match shapes.flatMap branches with
  | [s] => s
  | shapes =>
    match shapes.mapM single? with
    | some sets => ofSet (sets.foldl Unicode.Ranges.union [])
    | none => .alt shapes

def common : List Shape → List Shape → List Shape
  | a :: as, b :: bs => if a.isSame b then a :: common as bs else []
  | _, _ => []

/-- The parts that all shapes begin with, if each is a sequence. -/
def commonParts : List Shape → List Shape
  | [] => []
  | [.seq parts] => parts
  | .seq parts :: shapes => common parts (commonParts shapes)
  | _ => []

/-- Any of several shapes; what all begin with is taken out. -/
def anyOf (shapes : List Shape) : Shape :=
  match anyOfFew shapes with
  | .alt shapes =>
    match commonParts shapes with
    | [] => .alt shapes
    | first =>
      let rest := anyOfFew (shapes.map fun s => ofParts (s.parts.drop first.length))
      (ofParts first).andThen rest
  | s => s

/-- A repetition. The empty text is repeated once at most. -/
def repeated (body : Shape) (least : Nat) (most : Option Nat) : Shape :=
  let least := if body.isBlank then min least 1 else least
  let most := if body.isBlank then some (min (most.getD 1) 1) else most
  if least = 0 ∧ most = some 0 then .empty
  else if least = 1 ∧ most = some 1 then body
  else .repetition body least most

end Shape

def shapes : Regex → List Shape
  | .empty => [.empty]
  | .char set => [.ofSet set]
  | .look condition => [.look condition]
  | .seq a b => [(Shape.anyOf a.shapes).andThen (.anyOf b.shapes)]
  | .alt a b => a.shapes ++ b.shapes
  | .group numbered body =>
    [if numbered then .group (.anyOf body.shapes) else .anyOf body.shapes]
  | .repetition body least most => [(Shape.anyOf body.shapes).repeated least most]

def shape (r : Regex) : Shape := .anyOf r.shapes

end JsonQuery.Regex
