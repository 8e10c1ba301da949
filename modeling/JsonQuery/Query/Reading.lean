import JsonQuery.Query.Token
import JsonQuery.Text.Quoted

/-!
Reading queries. Each reader takes the text it stands at and gives what it read with the text
after it, or a failure with the text at which it stands; texts only get shorter, so reading
ends.
-/

namespace JsonQuery

namespace Reading

def fail {α : Type} (error : ReadError) (rest : List Char) : Except Failure α :=
  .error ⟨error, rest⟩

/-- `*` or a name, after a point. -/
def shorthand (s : List Char) : Except Failure (Parsed Selector s.length) :=
  match s with
  | '*' :: t => .ok ⟨.wildcard, t, length_lt_succ t⟩
  | s =>
    match Token.name? s with
    | some name => .ok (name.map fun n => .name (.ofList n))
    | none => fail .unexpectedToken s

/-- Whether a part of a slice is absent here. -/
def endsPart (colonEnds : Bool) : List Char → Bool
  | [] => true
  | c :: _ => c = ',' || c = ']' || (colonEnds && c = ':')

def slicePart (colonEnds : Bool) (s : List Char) :
    Except Failure (Parsed (Option Int) (s.length + 1)) :=
  if endsPart colonEnds s then .ok ⟨none, s, length_lt_succ s⟩
  else
    match Token.int? s with
    | some n => .ok ((n.map some).widen (length_le_succ s))
    | none => fail .badSlice s

def sliceStep (start stop : Option Int) (s : List Char) :
    Except Failure (Parsed Selector (s.length + 1)) :=
  match h : skipBlanks s with
  | ':' :: t => do
    let step ← slicePart false (skipBlanks t)
    have : (skipBlanks t).length ≤ s.length :=
      Nat.le_trans (length_skipBlanks_le t) (Nat.le_of_succ_le (length_le_of_skipBlanks h))
    return ⟨.slice ⟨start, stop, step.value.getD 1⟩, step.rest,
      Nat.lt_of_lt_of_le step.fits (Nat.succ_le_succ this)⟩
  | t => .ok ⟨.slice ⟨start, stop, 1⟩, t, Nat.lt_succ_of_le (length_le_of_skipBlanks h)⟩

def sliceAfterColon (start : Option Int) (s : List Char) :
    Except Failure (Parsed Selector (s.length + 1)) := do
  let stop ← slicePart true (skipBlanks s)
  have := length_skipBlanks_le s
  have := stop.fits
  let slice ← sliceStep start stop.value stop.rest
  return slice.widen (by omega)

/-- An index, or a slice that begins with its first bound or with a colon. -/
def indexOrSlice (s : List Char) : Except Failure (Parsed Selector s.length) :=
  match s with
  | ':' :: t => (sliceAfterColon none t).map fun p => p.widen (succ_length_le t)
  | s =>
    match Token.int? s with
    | none => fail .unexpectedToken s
    | some n =>
      match h : skipBlanks n.rest with
      | ':' :: t => (sliceAfterColon (some n.value) t).map fun p => p.widen (by
          have : t.length + 1 ≤ n.rest.length := length_le_of_skipBlanks h
          have := n.fits
          omega)
      | t => .ok ⟨.index n.value, t, by
          have := length_le_of_skipBlanks h
          have := n.fits
          omega⟩

def keyword? (word : List Char) : Option Literal :=
  if word = "true".toList then some (.bool true)
  else if word = "false".toList then some (.bool false)
  else if word = "null".toList then some .null
  else none

def stringOperand (s : List Char) : Except Failure (Parsed Filter s.length) :=
  (StringLiteral.read s).map fun p => p.map fun t => .literal (.string t)

def numberOperand (s : List Char) : Except Failure (Parsed Filter s.length) :=
  match Token.number? s with
  | some x => .ok (x.map fun x => .literal (.number (.finite x)))
  | none => fail .badNumber s

mutual

/-- A filter: conjunctions joined by `||`. -/
def filter (s : List Char) : Except Failure (Parsed Filter s.length) := do
  let left ← conjunction s
  have := left.fits
  let all ← moreAlternatives left.value left.rest
  return all.widen (by omega)
termination_by (s.length, 6)
decreasing_by all_goals omega

def moreAlternatives (left : Filter) (s : List Char) :
    Except Failure (Parsed Filter (s.length + 1)) :=
  match h : skipBlanks s with
  | '|' :: '|' :: t => do
    have : t.length + 2 ≤ s.length := length_le_of_skipBlanks h
    let right ← conjunction t
    have := right.fits
    let all ← moreAlternatives (.binary .or left right.value) right.rest
    return all.widen (by omega)
  | t => .ok ⟨left, t, Nat.lt_succ_of_le (length_le_of_skipBlanks h)⟩
termination_by (s.length, 5)
decreasing_by all_goals omega

/-- Comparisons joined by `&&`. -/
def conjunction (s : List Char) : Except Failure (Parsed Filter s.length) := do
  let left ← comparison s
  have := left.fits
  let all ← moreConjuncts left.value left.rest
  return all.widen (by omega)
termination_by (s.length, 4)
decreasing_by all_goals omega

def moreConjuncts (left : Filter) (s : List Char) :
    Except Failure (Parsed Filter (s.length + 1)) :=
  match h : skipBlanks s with
  | '&' :: '&' :: t => do
    have : t.length + 2 ≤ s.length := length_le_of_skipBlanks h
    let right ← comparison t
    have := right.fits
    let all ← moreConjuncts (.binary .and left right.value) right.rest
    return all.widen (by omega)
  | t => .ok ⟨left, t, Nat.lt_succ_of_le (length_le_of_skipBlanks h)⟩
termination_by (s.length, 5)
decreasing_by all_goals omega

def comparison (s : List Char) : Except Failure (Parsed Filter s.length) := do
  let left ← operand s
  have := left.fits
  have := length_skipBlanks_le left.rest
  match Token.comparison? (skipBlanks left.rest) with
  | none => return ⟨left.value, skipBlanks left.rest, by omega⟩
  | some op =>
    have := op.fits
    let right ← operand op.rest
    have := right.fits
    have := length_skipBlanks_le right.rest
    -- comparisons do not chain: a second operator is refused where it stands
    if (Token.comparison? (skipBlanks right.rest)).isSome then
      fail .unexpectedToken (skipBlanks right.rest)
    else
      return ⟨.binary op.value left.value right.value, skipBlanks right.rest, by omega⟩
termination_by (s.length, 3)
decreasing_by all_goals omega

/-- An operand under any number of negations. -/
def operand (s : List Char) : Except Failure (Parsed Filter s.length) :=
  match h : skipBlanks s with
  | '!' :: t => do
    have : t.length + 1 ≤ s.length := length_le_of_skipBlanks h
    let inner ← operand t
    return (inner.map .not).widen (by omega)
  | t => do
    have : t.length ≤ s.length := length_le_of_skipBlanks h
    let inner ← primary t
    return inner.widen this
termination_by (s.length, 2)
decreasing_by all_goals omega

/-- An operand without negation: a filter in parentheses, a literal, a query or a call. -/
def primary (s : List Char) : Except Failure (Parsed Filter s.length) :=
  match s with
  | [] => fail .unexpectedToken []
  | '(' :: t => do
    let inner ← filter t
    have := inner.fits
    match h : skipBlanks inner.rest with
    | ')' :: u => return ⟨inner.value, u, by
        have : u.length + 1 ≤ inner.rest.length := length_le_of_skipBlanks h
        simp only [List.length_cons]
        omega⟩
    | u => fail .unexpectedToken u
  | '$' :: t => do
    let path ← segments t
    return (path.map (.query .root)).widen (succ_length_le t)
  | '@' :: t => do
    let path ← segments t
    return (path.map (.query .current)).widen (succ_length_le t)
  | c :: t =>
    if c = '\'' ∨ c = '"' then stringOperand (c :: t)
    else if c = '-' ∨ c.isDigit = true then numberOperand (c :: t)
    else
      match Token.name? (c :: t) with
      | none => fail .unexpectedToken (c :: t)
      | some word =>
        match h : word.rest with
        -- any word before a parenthesis is called, a keyword too
        | '(' :: u => do
          have : u.length + 1 ≤ t.length := by
            have := word.fits
            simp only [h, List.length_cons] at this
            omega
          let args ← arguments u
          return (args.map (.call (.ofList word.value))).widen (by
            simp only [List.length_cons]
            omega)
        | rest =>
          match keyword? word.value with
          | some l => .ok ⟨.literal l, rest, by have := word.fits; simp_all⟩
          | none => fail .unexpectedToken (c :: t)
termination_by (s.length, 1)
decreasing_by all_goals
  simp only [List.length_cons]
  omega

/-- The arguments of a call, after its opening parenthesis. -/
def arguments (s : List Char) : Except Failure (Parsed (List Filter) s.length) :=
  match h : skipBlanks s with
  | ')' :: t => .ok ⟨[], t, length_le_of_skipBlanks h⟩
  | t => do
    have : t.length ≤ s.length := length_le_of_skipBlanks h
    let args ← moreArguments t
    return args.widen this
termination_by (s.length, 8)
decreasing_by all_goals omega

def moreArguments (s : List Char) : Except Failure (Parsed (List Filter) s.length) := do
  let arg ← filter s
  have := arg.fits
  match h : skipBlanks arg.rest with
  | ')' :: t => return ⟨[arg.value], t, by
      have : t.length + 1 ≤ arg.rest.length := length_le_of_skipBlanks h
      omega⟩
  | ',' :: t => do
    have : t.length + 1 ≤ arg.rest.length := length_le_of_skipBlanks h
    let args ← moreArguments t
    return (args.map (arg.value :: ·)).widen (by omega)
  | t => fail .badFunctionCall t
termination_by (s.length, 7)
decreasing_by all_goals omega

def segments (s : List Char) : Except Failure (Parsed (List Segment) (s.length + 1)) := do
  have := length_skipBlanks_le s
  match ← segment? (skipBlanks s) with
  -- blanks belong to the segment they precede, or are left
  | none => return ⟨[], s, by omega⟩
  | some first =>
    have := first.fits
    let more ← segments first.rest
    return (more.map (first.value :: ·)).widen (by omega)
termination_by (s.length, 2)
decreasing_by all_goals omega

def segment? (s : List Char) : Except Failure (Option (Parsed Segment s.length)) :=
  match s with
  | '.' :: '.' :: '[' :: t => do
    let all ← selectors (skipBlanks t)
    return some ((all.map (⟨true, ·⟩)).widen
      (Nat.le_trans (length_skipBlanks_le t) (Nat.le_add_right _ 3)))
  | '.' :: '.' :: t => do
    let one ← shorthand t
    return some ((one.map (⟨true, [·]⟩)).widen (length_le_add_two t))
  | '.' :: t => do
    let one ← shorthand t
    return some ((one.map (⟨false, [·]⟩)).widen (length_le_succ t))
  | '[' :: t => do
    let all ← selectors (skipBlanks t)
    return some ((all.map (⟨false, ·⟩)).widen
      (Nat.le_trans (length_skipBlanks_le t) (Nat.le_succ _)))
  | _ => .ok none
termination_by (s.length, 1)
decreasing_by all_goals
  have := length_skipBlanks_le t
  simp only [List.length_cons]
  omega

def selectors (s : List Char) : Except Failure (Parsed (List Selector) s.length) := do
  let first ← selector s
  have := first.fits
  match h : skipBlanks first.rest with
  | ']' :: t => return ⟨[first.value], t, Nat.lt_trans (length_le_of_skipBlanks h) this⟩
  | ',' :: t => do
    have : (skipBlanks t).length < s.length :=
      Nat.lt_trans (Nat.lt_of_le_of_lt (length_skipBlanks_le t) (length_le_of_skipBlanks h)) this
    let more ← selectors (skipBlanks t)
    return (more.map (first.value :: ·)).widen (Nat.le_of_lt this)
  | t => fail .unexpectedToken t
termination_by (s.length, 2)
decreasing_by all_goals omega

def selector (s : List Char) : Except Failure (Parsed Selector s.length) :=
  match s with
  | [] => fail .unexpectedToken []
  | '*' :: t => .ok ⟨.wildcard, t, length_lt_succ t⟩
  | '?' :: t => do
    have := length_skipBlanks_le t
    let condition ← filter (skipBlanks t)
    return (condition.map .filter).widen (Nat.le_trans this (Nat.le_succ _))
  | c :: t =>
    if c = '\'' ∨ c = '"' then
      (StringLiteral.read (c :: t)).map fun p => p.map .name
    else indexOrSlice (c :: t)
termination_by (s.length, 1)
decreasing_by all_goals
  simp only [List.length_cons]
  omega

end

def query (s : List Char) : Except Failure Query :=
  match s with
  | '$' :: t => do
    let path ← segments t
    match skipBlanks path.rest with
    | [] => return path.value
    | rest => fail .unexpectedToken rest
  | s => fail .expectedRoot s

def isPadded (s : List Char) : Bool :=
  s.head?.any isWhiteSpace || s.getLast?.any isWhiteSpace

/-- A query text: not empty, and without white space around it. -/
def text (s : List Char) : Except Failure Query :=
  if s.isEmpty || isPadded s then fail .expectedRoot s else query s

end Reading

/-- Why a text is no query, and the number of bytes before the place where that shows. -/
structure ParseError where
  error : ReadError
  position : Nat
  query : String
  deriving DecidableEq

/-- What follows the given number of bytes; none beyond the end or within a character. -/
def dropBytes? : Nat → List Char → Option (List Char)
  | 0, s => some s
  | _ + 1, [] => none
  | n + 1, c :: s => if c.utf8Size ≤ n + 1 then dropBytes? (n + 1 - c.utf8Size) s else none
termination_by _ s => s.length

namespace ParseError

def remainder (e : ParseError) : String :=
  .ofList ((dropBytes? e.position e.query.toList).getD [])

def message (e : ParseError) : String :=
  "invalid JSONPath query at offset " ++ toString e.position ++ " in " ++
    Quoted.quote e.query ++ ": " ++ e.error.message

end ParseError

def Query.parse (query : String) : Except ParseError Query :=
  match Reading.text query.toList with
  | .ok q => .ok q
  | .error f => .error ⟨f.error, query.utf8ByteSize - utf8Length f.rest, query⟩

end JsonQuery
