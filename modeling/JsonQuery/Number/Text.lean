import JsonQuery.Number.Decimal

/-!
How numbers are written and read. There are two layouts of the same shortest digits: the
plain one of query texts, which never has an exponent, and the one of JSON texts, which keeps
a point in every double and turns to an exponent for very large and very small ones.
-/

namespace JsonQuery

def natChars (n : Nat) : List Char := Nat.toDigits 10 n

def intChars : Int → List Char
  | .ofNat n => natChars n
  | .negSucc n => '-' :: natChars (n + 1)

namespace Decimal

/-- Digits and point, with as many zeros as the exponent needs. -/
def plain (d : Decimal) : List Char :=
  let digits := natChars d.digits
  if 0 ≤ d.exponent then digits ++ List.replicate d.exponent.toNat '0'
  else
    let places := (-d.exponent).toNat
    if places < digits.length then
      digits.take (digits.length - places) ++ '.' :: digits.drop (digits.length - places)
    else '0' :: '.' :: (List.replicate (places - digits.length) '0' ++ digits)

/-- One digit before the point, and an exponent with its sign. -/
def scientific (d : Decimal) : List Char :=
  let digits := natChars d.digits
  let exponent := d.exponent + (digits.length - 1)
  let mark := if 0 ≤ exponent then ['e', '+'] else ['e']
  match digits with
  | first :: second :: rest => first :: '.' :: second :: rest ++ mark ++ intChars exponent
  | digits => digits ++ mark ++ intChars exponent

/-- The power of ten of the first digit. -/
def magnitude (d : Decimal) : Int := d.exponent + ((natChars d.digits).length - 1)

end Decimal

namespace Double

def signChars (x : Double) : List Char := if x.negative then ['-'] else []

/-- The text of a number in a query. Halfway between two decimals, the upper one is
written. -/
def plainChars (x : Double) : List Char := x.signChars ++ (x.shortest .up).plain

/-- The text of a double in JSON: plain from `10⁻⁵` up to `10¹⁶`, and never without a point
or an exponent. Halfway between two decimals, the one with an even last digit is written. -/
def jsonChars (x : Double) : List Char :=
  let d := x.shortest .even
  if d.digits = 0 then x.signChars ++ ['0', '.', '0']
  else if -5 ≤ d.magnitude ∧ d.magnitude < 16 then
    x.signChars ++ d.plain ++ (if 0 ≤ d.exponent then ['.', '0'] else [])
  else x.signChars ++ d.scientific

end Double

/-! ### Reading -/

/-- Splits off the longest run of digits. -/
def spanDigits (s : List Char) : List Char × List Char :=
  (s.takeWhile Char.isDigit, s.dropWhile Char.isDigit)

def natOfDigits (digits : List Char) : Nat :=
  digits.foldl (fun n c => 10 * n + (c.toNat - '0'.toNat)) 0

/-- A number as written: its parts, which are all there is to its text. -/
structure NumberToken where
  negative : Bool
  whole : List Char
  fraction : Option (List Char)
  /-- The exponent, if there is one: whether it has a minus sign, and its digits. -/
  exponent : Option (Bool × List Char)

namespace NumberToken

/-- The digits of a whole part: zero, or digits that do not begin with zero. -/
def isWhole (digits : List Char) : Bool :=
  !digits.isEmpty && (digits == ['0'] || digits.head? != some '0')

/-- The whole part, which no further digit may follow. -/
def scanWhole (s : List Char) : Option (List Char × List Char) :=
  if isWhole (spanDigits s).1 then some (spanDigits s) else none

def scanDigits (s : List Char) : Option (List Char × List Char) :=
  if (spanDigits s).1.isEmpty then none else some (spanDigits s)

def scanMinus : List Char → Bool × List Char
  | '-' :: s => (true, s)
  | s => (false, s)

def scanFraction : List Char → Option (Option (List Char) × List Char)
  | '.' :: s => (scanDigits s).map fun p => (some p.1, p.2)
  | s => some (none, s)

/-- The sign of an exponent: whether it is a minus sign. -/
def scanSign : List Char → Bool × List Char
  | '+' :: s => (false, s)
  | '-' :: s => (true, s)
  | s => (false, s)

def scanExponent : List Char → Option (Option (Bool × List Char) × List Char)
  | [] => some (none, [])
  | c :: s =>
    if c = 'e' ∨ c = 'E' then
      (scanDigits (scanSign s).2).map fun p => (some ((scanSign s).1, p.1), p.2)
    else some (none, c :: s)

def scan? (s : List Char) : Option (NumberToken × List Char) := do
  let (negative, s) := scanMinus s
  let (whole, s) ← scanWhole s
  let (fraction, s) ← scanFraction s
  let (exponent, s) ← scanExponent s
  return (⟨negative, whole, fraction, exponent⟩, s)

/-! A token is taken off the front of the text. -/

theorem length_spanDigits (s : List Char) :
    (spanDigits s).1.length + (spanDigits s).2.length = s.length := by
  rw [← List.length_append]
  exact congrArg List.length List.takeWhile_append_dropWhile

theorem length_scanDigits {s : List Char} {p : List Char × List Char}
    (h : scanDigits s = some p) : p.2.length < s.length := by
  have hs := length_spanDigits s
  unfold scanDigits at h
  split at h
  · simp at h
  · rename_i hne
    obtain rfl := Option.some.inj h
    have : 0 < (spanDigits s).1.length := by
      rw [List.length_pos_iff]; simpa using hne
    omega

theorem length_scanWhole {s : List Char} {p : List Char × List Char}
    (h : scanWhole s = some p) : p.2.length < s.length := by
  have hs := length_spanDigits s
  unfold scanWhole isWhole at h
  split at h
  · rename_i hw
    obtain rfl := Option.some.inj h
    have : 0 < (spanDigits s).1.length := by
      rw [List.length_pos_iff]; simp_all
    omega
  · simp at h

theorem length_scanMinus (s : List Char) : (scanMinus s).2.length ≤ s.length := by
  unfold scanMinus; split <;> simp

theorem length_scanSign (s : List Char) : (scanSign s).2.length ≤ s.length := by
  unfold scanSign; split <;> simp

theorem length_scanFraction {s : List Char} {p : Option (List Char) × List Char}
    (h : scanFraction s = some p) : p.2.length ≤ s.length := by
  unfold scanFraction at h
  split at h
  · obtain ⟨q, hq, rfl⟩ := Option.map_eq_some_iff.1 h
    have := length_scanDigits hq
    simp; omega
  · obtain rfl := Option.some.inj h
    simp

theorem length_scanExponent {s : List Char} {p : Option (Bool × List Char) × List Char}
    (h : scanExponent s = some p) : p.2.length ≤ s.length := by
  unfold scanExponent at h
  split at h
  · obtain rfl := Option.some.inj h
    simp
  · split at h
    · obtain ⟨q, hq, rfl⟩ := Option.map_eq_some_iff.1 h
      rename_i t _
      have := length_scanDigits hq
      have := length_scanSign t
      simp; omega
    · obtain rfl := Option.some.inj h
      simp

theorem length_scan? {s : List Char} {p : NumberToken × List Char}
    (h : scan? s = some p) : p.2.length < s.length := by
  have h0 := length_scanMinus s
  simp only [scan?, Option.bind_eq_bind, Option.bind_eq_some_iff] at h
  obtain ⟨w, hw, f, hf, e, he, h⟩ := h
  obtain rfl := Option.some.inj h
  have := length_scanWhole hw
  have := length_scanFraction hf
  have := length_scanExponent he
  simp only
  omega

theorem length_rest_lt {s rest : List Char} {token : NumberToken}
    (h : scan? s = some (token, rest)) : rest.length < s.length :=
  length_scan? h

/-- The decimal a token denotes, without its sign. -/
def decimal (t : NumberToken) : Decimal :=
  let fraction := t.fraction.getD []
  let exponent : Int := match t.exponent with
    | none => 0
    | some (true, digits) => -(natOfDigits digits)
    | some (false, digits) => natOfDigits digits
  ⟨natOfDigits (t.whole ++ fraction), exponent - fraction.length⟩

def double? (t : NumberToken) : Option Double := t.decimal.toDouble? t.negative

/-- The integer, if neither a point nor an exponent is written. -/
def int? (t : NumberToken) : Option Int :=
  if t.fraction.isNone && t.exponent.isNone then
    let n := natOfDigits t.whole
    some (if t.negative then -n else n)
  else none

end NumberToken
end JsonQuery
