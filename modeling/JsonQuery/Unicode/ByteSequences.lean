import JsonQuery.Unicode.Ranges

/-!
UTF-8 by ranges: the characters of a range are those that are written with the bytes of some
sequences of byte ranges.
-/

namespace JsonQuery.Unicode

/-- A range of bytes, by its first and last one. -/
abbrev ByteRange := Nat × Nat

/-- The numbers from `first` to `last`, by their digits to the base 64, of which there are
`count` after the leading one. -/
def sextets : (count : Nat) → (first last : Nat) → List (List (Nat × Nat))
  | 0, first, last => [[(first, last)]]
  | count + 1, first, last =>
    let unit := Nat.pow 64 (count + 1)
    let a := first / unit
    let b := last / unit
    if a = b then (sextets count (first % unit) (last % unit)).map ((a, a) :: ·)
    else
      let low :=
        if first % unit = 0 then []
        else (sextets count (first % unit) (unit - 1)).map ((a, a) :: ·)
      let high :=
        if last % unit = unit - 1 then []
        else (sextets count 0 (last % unit)).map ((b, b) :: ·)
      let a := if low.isEmpty then a else a + 1
      let b := if high.isEmpty then b + 1 else b
      let middle := if a < b then [(a, b - 1) :: List.replicate (count + 1) (0, 63)] else []
      low ++ middle ++ high

/-- The characters with the same number of bytes: how many bytes follow the first one, the
range of the characters, and what marks the first byte. Surrogates are no characters. -/
def encodings : List (Nat × Nat × Nat × Nat) := [
  (0, 0, 0x7F, 0),
  (1, 0x80, 0x7FF, 0xC0),
  (2, 0x800, 0xD7FF, 0xE0),
  (2, 0xE000, 0xFFFF, 0xE0),
  (3, 0x10000, lastChar, 0xF0)]

/-- The bytes with those digits. -/
def bytesOfSextets (mark : Nat) : List (Nat × Nat) → List ByteRange
  | [] => []
  | (a, b) :: digits =>
    (mark + a, mark + b) :: digits.map fun (a, b) => (0x80 + a, 0x80 + b)

/-- The byte sequences of a range of characters, in ascending order. -/
def byteSequences (first last : Nat) : List (List ByteRange) :=
  encodings.flatMap fun (count, low, high, mark) =>
    let a := max first low
    let b := min last high
    if a ≤ b then (sextets count a b).map (bytesOfSextets mark) else []

def Ranges.byteSequences (set : Ranges) : List (List ByteRange) :=
  set.flatMap fun r => Unicode.byteSequences r.1 r.2

/-- The bytes of a character. -/
def bytes (char : Nat) : List Nat :=
  ((byteSequences char char).headD []).map Prod.fst

end JsonQuery.Unicode
