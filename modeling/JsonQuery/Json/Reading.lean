import JsonQuery.Json.Basic
import JsonQuery.Number.Text
import JsonQuery.Text.StringLiteral

/-!
Reading documents. A number without point and exponent is an integer if it fits into 64 bits;
every other number is the nearest double. Of two members of one name the later one counts.
-/

namespace JsonQuery.Json

/-- The integers of 64 bits, signed or not. -/
def fits64 (n : Int) : Bool := -0x8000000000000000 ≤ n && n < 0x10000000000000000

/-- The number a token denotes. Minus zero is a double. -/
def ofToken? (t : NumberToken) : Option Number :=
  match t.int? with
  | some n =>
    if fits64 n && !(t.negative && n == 0) then some (.int n) else t.double?.map .real
  | none => t.double?.map .real

/-- Puts a member into an object, in place of an earlier one of its name. -/
def setMember (members : List (String × Json)) (name : String) (value : Json) :
    List (String × Json) :=
  if members.any (·.1 == name) then
    members.map fun m => if m.1 == name then (name, value) else m
  else members ++ [(name, value)]

def word? : (s : List Char) → Option (Parsed Json s.length)
  | 'n' :: 'u' :: 'l' :: 'l' :: s => some ⟨.null, s, Nat.lt_add_of_pos_right (Nat.succ_pos 3)⟩
  | 't' :: 'r' :: 'u' :: 'e' :: s =>
    some ⟨.bool true, s, Nat.lt_add_of_pos_right (Nat.succ_pos 3)⟩
  | 'f' :: 'a' :: 'l' :: 's' :: 'e' :: s =>
    some ⟨.bool false, s, Nat.lt_add_of_pos_right (Nat.succ_pos 4)⟩
  | _ => none

def number? (s : List Char) : Option (Parsed Json s.length) :=
  match h : NumberToken.scan? s with
  | none => none
  | some (token, rest) =>
    (ofToken? token).map fun n => ⟨.number n, rest, NumberToken.length_rest_lt h⟩

def string? (s : List Char) : Option (Parsed String s.length) :=
  match s with
  | '"' :: t => (StringLiteral.read ('"' :: t)).toOption
  | _ => none

mutual

def readValue (s : List Char) : Option (Parsed Json s.length) :=
  match h : skipBlanks s with
  | '[' :: t => do
    have : t.length + 1 ≤ s.length := length_le_of_skipBlanks h
    match h' : skipBlanks t with
    | ']' :: u => return ⟨.array [], u, by
        have : u.length + 1 ≤ t.length := length_le_of_skipBlanks h'
        omega⟩
    | _ => do
      let items ← readItems t
      return (items.map .array).widen (by omega)
  | '{' :: t => do
    have : t.length + 1 ≤ s.length := length_le_of_skipBlanks h
    match h' : skipBlanks t with
    | '}' :: u => return ⟨.object [], u, by
        have : u.length + 1 ≤ t.length := length_le_of_skipBlanks h'
        omega⟩
    | _ => do
      let members ← readMembers [] t
      return (members.map .object).widen (by omega)
  | t => do
    have : t.length ≤ s.length := length_le_of_skipBlanks h
    let value ← match string? t with
      | some text => some (text.map .string)
      | none => number? t <|> word? t
    return value.widen this
termination_by (s.length, 1)
decreasing_by all_goals omega

def readItems (s : List Char) : Option (Parsed (List Json) s.length) := do
  let item ← readValue s
  have := item.fits
  match h : skipBlanks item.rest with
  | ']' :: t => return ⟨[item.value], t, by
      have : t.length + 1 ≤ item.rest.length := length_le_of_skipBlanks h
      omega⟩
  | ',' :: t => do
    have : t.length + 1 ≤ item.rest.length := length_le_of_skipBlanks h
    let items ← readItems t
    return (items.map (item.value :: ·)).widen (by omega)
  | _ => none
termination_by (s.length, 2)
decreasing_by all_goals omega

/-- The members of an object, up to its closing brace, added to those before them. -/
def readMembers (before : List (String × Json)) (s : List Char) :
    Option (Parsed (List (String × Json)) s.length) := do
  let name ← string? (skipBlanks s)
  have := name.fits
  have := length_skipBlanks_le s
  match h : skipBlanks name.rest with
  | ':' :: t => do
    have : t.length + 1 ≤ name.rest.length := length_le_of_skipBlanks h
    let value ← readValue t
    have := value.fits
    let members := setMember before name.value value.value
    match h' : skipBlanks value.rest with
    | '}' :: u => return ⟨members, u, by
        have : u.length + 1 ≤ value.rest.length := length_le_of_skipBlanks h'
        omega⟩
    | ',' :: u => do
      have : u.length + 1 ≤ value.rest.length := length_le_of_skipBlanks h'
      let all ← readMembers members u
      return all.widen (by omega)
    | _ => none
  | _ => none
termination_by (s.length, 2)
decreasing_by all_goals omega

end

def parse? (text : String) : Option Json := do
  let value ← readValue text.toList
  if (skipBlanks value.rest).isEmpty then return value.value else none

end JsonQuery.Json
