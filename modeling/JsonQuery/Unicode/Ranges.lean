/-!
Sets of characters as tables of ranges.

A table is written as a list of ranges in hexadecimal, each as the distance of its first
character from the end of the range before it, and `+` with the number of further characters
if there are any: `41+19 6+19` are the letters `A` to `Z` and `a` to `z`.
-/

namespace JsonQuery.Unicode

/-- Ranges of characters, by their first and last numbers. -/
abbrev Ranges := List (Nat × Nat)

/-- Whether one of the ranges holds the character of that number. -/
def Ranges.contains (ranges : Ranges) (n : Nat) : Bool :=
  ranges.any fun r => r.1 ≤ n && n ≤ r.2

/-! ### Sets -/

/-- The largest number of a character. -/
def lastChar : Nat := 0x10FFFF

/-- Puts a range at its place among ranges in ascending order. -/
def Ranges.place (r : Nat × Nat) : Ranges → Ranges
  | [] => [r]
  | q :: rest => if r.1 ≤ q.1 then r :: q :: rest else q :: Ranges.place r rest

/-- All ranges in ascending order, those that touch joined into one. The ranges of `b` are in
ascending order already. -/
def Ranges.union (a b : Ranges) : Ranges := (a.foldr Ranges.place b).foldr joined []
where
  /-- Joins a range with all that it reaches. -/
  joined (r : Nat × Nat) (ranges : Ranges) : Ranges :=
    let reached := ranges.takeWhile fun q => q.1 ≤ r.2 + 1
    (r.1, reached.foldl (fun m q => max m q.2) r.2) :: ranges.dropWhile fun q => q.1 ≤ r.2 + 1

/-- The characters outside of ranges in ascending order, from `next` on. -/
def Ranges.gaps (next : Nat) : Ranges → Ranges
  | [] => if next ≤ lastChar then [(next, lastChar)] else []
  | (first, last) :: rest =>
    if next < first then (next, first - 1) :: Ranges.gaps (last + 1) rest
    else Ranges.gaps (last + 1) rest

/-- All other characters. -/
def Ranges.complement (a : Ranges) : Ranges := Ranges.gaps 0 (a.union [])

def Ranges.inter (a b : Ranges) : Ranges := (a.complement.union b.complement).complement

def Ranges.diff (a b : Ranges) : Ranges := a.inter b.complement

def Ranges.symmDiff (a b : Ranges) : Ranges := (a.diff b).union (b.diff a)

/-- Whether all characters are ASCII. -/
def Ranges.isAscii (a : Ranges) : Bool := a.all fun r => r.2 < 0x80

/-! ### Tables -/

/-- Splits at every character that satisfies the test; the parts may be empty. -/
def splitAll (p : Char → Bool) : List Char → List (List Char)
  | [] => [[]]
  | c :: s =>
    if p c then [] :: splitAll p s
    else match splitAll p s with
      | [] => [[c]]
      | part :: parts => (c :: part) :: parts

/-- The parts between blanks and line ends. -/
def words (s : List Char) : List (List Char) :=
  (splitAll (fun c => c == ' ' || c == '\n') s).filter (!·.isEmpty)

/-- The parts between the signs `+` and `=`. -/
def pieces (s : List Char) : List (List Char) := splitAll (fun c => c == '+' || c == '=') s

/-- The number that hexadecimal digits in upper case denote. -/
def natOfHex (s : List Char) : Nat :=
  s.foldl (fun n c => 16 * n + if c.isDigit then c.toNat - 48 else c.toNat - 55) 0

/-- Reads the ranges of a table, of which the first one begins at `next` or later. -/
def rangesFrom (next : Nat) : List (List Char) → Ranges
  | [] => []
  | w :: ws =>
    let first := next + natOfHex (w.takeWhile (· != '+'))
    let last := first + natOfHex ((w.dropWhile (· != '+')).drop 1)
    (first, last) :: rangesFrom (last + 1) ws

def rangesOfText (s : String) : Ranges := rangesFrom 0 (words s.toList)

/-- The names of a property, without case and separators, and its table as written. -/
abbrev Property := List String × String

/-- The ranges of the property of that name. -/
def lookup? (table : List Property) (name : String) : Option Ranges :=
  (table.find? (·.1.contains name)).map fun p => rangesOfText p.2

end JsonQuery.Unicode
