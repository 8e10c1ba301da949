import JsonQuery.Regex.Shape
import Std.Data.TreeMap

/-!
How much room the automata of an expression take, one that reads texts forward and one that
reads them backward. An expression whose automata would be too large is refused.

A state takes 32 bytes, and more if it leads on in several ways: 8 for each range of bytes, or
4 for each state it forks to.
-/

namespace JsonQuery.Regex

/-- The room that an automaton takes so far: its states, and the bytes beside them. -/
structure Room where
  states : Nat := 0
  bytes : Nat := 0

def sizeLimit : Nat := 10 * Nat.pow 2 20

namespace Room

def size (r : Room) : Nat := 32 * r.states + r.bytes

/-- More states and bytes, as long as the limit is kept. -/
def add (r : Room) (states bytes : Nat) : Option Room :=
  let r : Room := ⟨r.states + states, r.bytes + bytes⟩
  if r.size ≤ sizeLimit then some r else none

def repeated (grow : Room → Option Room) : Nat → Room → Option Room
  | 0, r => some r
  | n + 1, r => (grow r).bind (repeated grow n)

end Room

/-! ### Sets

The characters of a set that is not within ASCII are told by sequences of bytes. -/

section Sets

open Unicode (ByteRange)

/-- Sequences with the same first range next to one another, without that range. -/
def tails : List (List ByteRange) → List (ByteRange × List (List ByteRange))
  | [] => []
  | [] :: rest => tails rest
  | (first :: tail) :: rest =>
    match tails rest with
    | (next, more) :: groups =>
      if first = next then (first, tail :: more) :: groups
      else (first, [tail]) :: (next, more) :: groups
    | [] => [(first, [tail])]

/-- What can follow at each state of the automaton that reads the sequences, the end apart:
as many sequences as lead on from there. -/
def followers : (length : Nat) → List (List ByteRange) → List (List (List ByteRange))
  | 0, _ => []
  | length + 1, sequences =>
    if sequences.all (·.isEmpty) then []
    else sequences :: (tails sequences).flatMap fun part => followers length part.2

/-- Forward, states that the same can follow are one state. -/
def forwardSet (set : Unicode.Ranges) (r : Room) : Option Room :=
  let states := (followers 4 set.byteSequences).eraseDups
  r.add (1 + states.length) (8 * (states.flatMap tails).length)

/-- A state that has been built to read a range of bytes, and then what another one reads. -/
structure Ending where
  next : Nat
  range : ByteRange
  state : Nat

def Ending.place (next : Nat) (range : ByteRange) : Nat :=
  let mix (h : UInt64) (n : Nat) : UInt64 := (h ^^^ n.toUInt64) * 1099511628211
  ((mix (mix (mix 14695981039346656037 next) range.1) range.2) % 1000).toNat

/-- Backward, what ends a sequence is shared with the sequences before, unless it has lost its
place in the table. -/
def backwardSequence (table : Std.TreeMap Nat Ending) (states next : Nat) :
    List ByteRange → Std.TreeMap Nat Ending × Nat
  | [] => (table, states)
  | range :: ranges =>
    let place := Ending.place next range
    match table[place]?.filter fun e => e.next = next ∧ e.range = range with
    | some ending => backwardSequence table states ending.state ranges
    | none => backwardSequence (table.insert place ⟨next, range, states⟩) (states + 1) states ranges

def backwardSet (set : Unicode.Ranges) (r : Room) : Option Room :=
  let sequences := set.byteSequences
  let last := r.states + 1
  let built := sequences.foldl
    (fun (table, states) sequence => backwardSequence table states last sequence) ({}, last + 1)
  r.add (built.2 - r.states) (4 * sequences.length)

def growSet (backward : Bool) (set : Unicode.Ranges) (r : Room) : Option Room :=
  if set.isAscii then r.add 2 (8 * set.length)
  else if backward then backwardSet set r
  else forwardSet set r

end Sets

/-! ### Texts -/

/-- The texts that go on after their first byte, grouped by it; the empty ones are left out. -/
def byFirst : List (List Nat) → List (Nat × List (List Nat))
  | [] => []
  | [] :: texts => byFirst texts
  | (b :: text) :: texts =>
    let groups := byFirst texts
    match groups.find? (·.1 = b) with
    | some (_, more) => (b, text :: more) :: groups.filter (·.1 ≠ b)
    | none => (b, [text]) :: groups

/-- The texts between the empty ones. An empty text counts unless it follows another one with
no other text before it. -/
def runs (started : Bool) : List (List Nat) → List (List (List Nat))
  | [] => [[]]
  | [] :: texts =>
    if started then [] :: runs started texts
    else [] :: runs started (texts.dropWhile (·.isEmpty))
  | text :: texts =>
    match runs true texts with
    | run :: rest => (text :: run) :: rest
    | [] => [[text]]
termination_by texts => texts.length
decreasing_by
  · simp
  · have := (List.dropWhile_suffix (l := texts) (·.isEmpty)).length_le
    simp; omega
  · simp

def textsRoom : (length : Nat) → List (List Nat) → Room
  | 0, _ => {}
  | length + 1, texts =>
    let runs := runs false texts
    let inner := runs.flatMap fun run => (byFirst run).map Prod.snd
    let deeper := (inner.filter (·.any (!·.isEmpty))).map (textsRoom length)
    let forks := runs.map fun run => (byFirst run).length
    let full := forks.filter (· ≠ 0)
    ⟨1 + full.length + (deeper.map Room.states).sum,
      4 * (full.length + (runs.length - 1)) + (full.map fun n => if n = 1 then 0 else 8 * n).sum +
        (deeper.map Room.bytes).sum⟩

/-! ### Shapes -/

namespace Shape

def textBytes? (backward : Bool) : Shape → Option (List Nat)
  | .text chars =>
    let bytes := chars.flatMap Unicode.bytes
    some (if backward then bytes.reverse else bytes)
  | _ => none

mutual

def grow (backward : Bool) : Shape → Room → Option Room
  | .empty, r | .look _, r => r.add 1 0
  | .text chars, r => r.add (chars.flatMap Unicode.bytes).length 0
  | .set ranges, r => growSet backward ranges r
  | .group body, r => do
    if backward then body.grow backward r
    else
      let r ← r.add 1 0
      let r ← body.grow backward r
      r.add 1 0
  | .seq parts, r => growAll backward parts r
  | .alt branches, r =>
    match branches.mapM (textBytes? backward) with
    -- texts share what they begin with
    | some texts =>
      let room := textsRoom (texts.foldl (fun n t => max n (t.length + 1)) 0) texts
      r.add (1 + room.states) room.bytes
    | none => do
      let r ← growAny backward 0 branches r
      r.add 0 (4 * branches.length)
  | .repetition body least most, r =>
    match least, most with
    | 0, some 1 => do
      let r ← r.add 1 0
      let r ← body.grow backward r
      r.add 1 8
    | 0, none => do
      if body.leastBytes?.any (0 < ·) then
        let r ← r.add 1 0
        let r ← body.grow backward r
        r.add 0 8
      -- a body that can match the empty text: once or more, or not at all
      else
        let r ← body.grow backward r
        r.add 3 16
    -- the last of the copies loops
    | least, none => do
      let r ← Room.repeated (body.grow backward) least r
      r.add 1 8
    | least, some most => do
      let r ← if least = 0 then r.add 1 0 else Room.repeated (body.grow backward) least r
      -- each copy beyond the least can be left out
      if least < most then
        let r ← r.add 1 0
        Room.repeated (fun r => (r.add 1 8).bind (body.grow backward)) (most - least) r
      else some r

/-- The states of shapes in a row, the last one first if the text is read backward. -/
def growAll (backward : Bool) : List Shape → Room → Option Room
  | [], r => some r
  | s :: ss, r =>
    if backward then (growAll backward ss r).bind (s.grow backward)
    else (s.grow backward r).bind (growAll backward ss)

/-- The states of alternatives; after two of them come the states where they part and meet. -/
def growAny (backward : Bool) (before : Nat) : List Shape → Room → Option Room
  | [], r => some r
  | s :: ss, r => do
    let r ← s.grow backward r
    let r ← if before = 1 then r.add 2 0 else some r
    growAny backward (before + 1) ss r

end

/-- The room of a whole automaton. A match may begin at any place unless the shape is anchored,
and the group of the whole match is numbered. -/
def room (backward : Bool) (s : Shape) : Option Room := do
  let r : Room := {}
  let r ← if s.isAnchored backward then r.add 1 0 else r.add 3 16
  let r ← (Shape.group s).grow backward r
  r.add 1 0

/-- Whether a shape is a choice among many texts, which are searched for without automata. -/
def isDictionary : Shape → Bool
  | .alt branches => 3000 ≤ branches.length && branches.all fun s => (s.textBytes? false).isSome
  | _ => false

/-- Whether both automata keep the limit, or none is built. -/
def fits (s : Shape) : Bool := s.isDictionary || ((s.room true).isSome && (s.room false).isSome)

end Shape
end JsonQuery.Regex
