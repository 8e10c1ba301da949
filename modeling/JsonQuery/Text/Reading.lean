import JsonQuery.Text.Character

/-!
What reading a text gives: a value with the text after it, which is shorter than what was
read from, or a failure with the text it stands at.
-/

namespace JsonQuery

inductive ReadError where
  | expectedRoot
  | unexpectedToken
  | unterminatedString
  | badEscape
  | badNumber
  | badSlice
  | badFunctionCall
  deriving DecidableEq

def ReadError.message : ReadError → String
  | .expectedRoot => "expected root"
  | .unexpectedToken => "unexpected token"
  | .unterminatedString => "unterminated string"
  | .badEscape => "invalid escape"
  | .badNumber => "invalid number"
  | .badSlice => "invalid slice"
  | .badFunctionCall => "invalid function call"

/-- What went wrong, and the text from that place on. -/
structure Failure where
  error : ReadError
  rest : List Char
  deriving DecidableEq

/-! What was taken off a text is not counted any more. -/

theorem length_lt_succ (s : List Char) : s.length < s.length + 1 := Nat.lt_succ_self _

theorem length_le_succ (s : List Char) : s.length ≤ s.length + 1 := Nat.le_succ _

theorem succ_length_le (s : List Char) : s.length + 1 ≤ s.length + 1 := Nat.le_refl _

theorem length_lt_add_two (s : List Char) : s.length < s.length + 2 :=
  Nat.lt_add_of_pos_right (by decide)

theorem length_le_add_two (s : List Char) : s.length ≤ s.length + 2 := Nat.le_add_right _ 2

theorem length_lt_of_eq_cons {s t : List Char} {c : Char} (h : s = c :: t) :
    t.length < s.length :=
  h ▸ length_lt_succ t

/-- A value read, and the text after it, which has fewer than `bound` characters. -/
structure Parsed (α : Type) (bound : Nat) where
  value : α
  rest : List Char
  fits : rest.length < bound

namespace Parsed

def widen {α : Type} {m n : Nat} (p : Parsed α m) (h : m ≤ n) : Parsed α n :=
  ⟨p.value, p.rest, Nat.lt_of_lt_of_le p.fits h⟩

def map {α β : Type} {n : Nat} (f : α → β) (p : Parsed α n) : Parsed β n :=
  ⟨f p.value, p.rest, p.fits⟩

end Parsed
end JsonQuery
