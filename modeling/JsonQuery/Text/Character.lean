/-!
The character classes of query texts: the blanks allowed between tokens, the characters of
names, and the white space that a query may neither begin nor end with.
-/

namespace JsonQuery

/-- The characters allowed between the tokens of a query. -/
def isBlank (c : Char) : Bool :=
  c == ' ' || c == '\t' || c == '\n' || c == '\r'

/-- The first character of a member name written without quotes, and of a function name. -/
def startsName (c : Char) : Bool :=
  c == '_' || c.isAlpha || 0x80 ≤ c.toNat

def continuesName (c : Char) : Bool :=
  startsName c || c.isDigit

/-- The characters with the property `White_Space`. -/
def isWhiteSpace (c : Char) : Bool :=
  let n := c.toNat
  (0x9 ≤ n && n ≤ 0xD) || n == 0x20 || n == 0x85 || n == 0xA0 || n == 0x1680 ||
    (0x2000 ≤ n && n ≤ 0x200A) || n == 0x2028 || n == 0x2029 || n == 0x202F ||
    n == 0x205F || n == 0x3000

theorem isWhiteSpace_of_isBlank {c : Char} (h : isBlank c = true) : isWhiteSpace c = true := by
  simp only [isBlank, Bool.or_eq_true, beq_iff_eq] at h
  rcases h with ((rfl | rfl) | rfl) | rfl <;> decide

def skipBlanks (s : List Char) : List Char := s.dropWhile isBlank

theorem length_skipBlanks_le (s : List Char) : (skipBlanks s).length ≤ s.length :=
  (List.dropWhile_suffix _).length_le

theorem length_le_of_skipBlanks {s t : List Char} (h : skipBlanks s = t) :
    t.length ≤ s.length :=
  h ▸ length_skipBlanks_le s

def utf8Length (s : List Char) : Nat := s.foldl (fun n c => n + c.utf8Size) 0

end JsonQuery
