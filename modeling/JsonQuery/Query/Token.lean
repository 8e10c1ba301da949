import JsonQuery.Number.Text
import JsonQuery.Query.Basic
import JsonQuery.Text.StringLiteral

/-!
The tokens of a query: integers, numbers, names and comparison operators. Each reader takes
the token at the start of the text, or nothing.
-/

namespace JsonQuery.Token

/-- The integer that a whole part denotes. There is no minus zero, and the magnitude is at
most the largest below which doubles hold every integer. -/
def intValue? (negative : Bool) (digits : List Char) : Option Int :=
  let n := natOfDigits digits
  if n ≤ Double.maxSafe ∧ ¬(negative = true ∧ n = 0) then
    some (if negative then -n else n)
  else none

def int? (s : List Char) : Option (Parsed Int s.length) :=
  match h : NumberToken.scanWhole (NumberToken.scanMinus s).2 with
  | none => none
  | some (digits, rest) =>
    (intValue? (NumberToken.scanMinus s).1 digits).map fun n =>
      ⟨n, rest,
        Nat.lt_of_lt_of_le (NumberToken.length_scanWhole h) (NumberToken.length_scanMinus s)⟩

/-- A number that some double is nearest to. -/
def number? (s : List Char) : Option (Parsed Double s.length) :=
  match h : NumberToken.scan? s with
  | none => none
  | some (token, rest) =>
    token.double?.map fun x => ⟨x, rest, NumberToken.length_rest_lt h⟩

/-- A name: the longest run of name characters from a first one on. -/
def name? : (s : List Char) → Option (Parsed (List Char) s.length)
  | [] => none
  | c :: s =>
    if startsName c then
      some ⟨c :: s.takeWhile continuesName, s.dropWhile continuesName,
        Nat.lt_succ_of_le (List.dropWhile_suffix _).length_le⟩
    else none

/-- A comparison operator; of two that fit, the longer one. -/
def comparison? : (s : List Char) → Option (Parsed Operator s.length)
  | '=' :: '=' :: s => some ⟨.equal, s, length_lt_add_two s⟩
  | '!' :: '=' :: s => some ⟨.notEqual, s, length_lt_add_two s⟩
  | '<' :: '=' :: s => some ⟨.lessEqual, s, length_lt_add_two s⟩
  | '>' :: '=' :: s => some ⟨.greaterEqual, s, length_lt_add_two s⟩
  | '<' :: s => some ⟨.less, s, length_lt_succ s⟩
  | '>' :: s => some ⟨.greater, s, length_lt_succ s⟩
  | _ => none

end JsonQuery.Token
