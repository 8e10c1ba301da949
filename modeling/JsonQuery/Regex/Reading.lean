import JsonQuery.Number.Text
import JsonQuery.Regex.Automaton
import JsonQuery.Regex.Class
import JsonQuery.Unicode.Letter

/-!
Reading regular expressions. Groups nest, flags hold from where they are set to the end of
their group, and an expression that nests too deeply, or would need too large an automaton, is
refused.
-/

namespace JsonQuery.Regex

/-- An expression, how deep it nests, and whether it is no more than a setting of flags, which
cannot be repeated. -/
structure Item where
  regex : Regex
  depth : Nat
  isSetting : Bool := false

/-- Items one after the other; two or more nest them. The last one comes first. -/
def concat : List Item → Item
  | [] => ⟨.empty, 0, false⟩
  | [item] => { item with isSetting := false }
  | items =>
    ⟨items.foldl (fun r item => .seq item.regex r) .empty,
      (items.foldl (fun d item => max d item.depth) 0) + 1, false⟩

def alternatives : List Item → Item
  | [] => ⟨.empty, 0, false⟩
  | [item] => item
  | item :: items =>
    ⟨items.foldl (fun r i => .alt i.regex r) item.regex,
      (items.foldl (fun d i => max d i.depth) item.depth) + 1, false⟩

def repeatLast (least : Nat) (most : Option Nat) : List Item → Option (List Item)
  | [] => none
  | item :: items =>
    if item.isSetting then none
    else some (⟨.repetition item.regex least most, item.depth + 1, false⟩ :: items)

/-! ### Groups -/

def isGroupName : List Char → Bool
  | [] => false
  | c :: rest =>
    (c == '_' || Unicode.letters.contains c.toNat) &&
      rest.all fun c =>
        c == '_' || c == '.' || c == '[' || c == ']' ||
          Unicode.letters.contains c.toNat || Unicode.numbers.contains c.toNat

/-- What an opening parenthesis begins: a group, numbered or not, with its flags and perhaps a
name, or a setting of flags. -/
inductive Opening where
  | group (numbered : Bool) (inner : Flags) (name : Option (List Char))
  | setting (flags : Flags)

/-- Letters of flags, up to a colon or a closing parenthesis: each at most once, and at most
one minus sign, which switches off what follows it. -/
def Flags.settings (flags : Flags) (seen : List Char) (on : Bool) :
    (s : List Char) → Option (Parsed Opening s.length)
  | [] => none
  | c :: t =>
    if c = ':' ∨ c = ')' then
      if seen.head? = some '-' then none
      else if c = ':' then some ⟨.group false flags none, t, length_lt_succ t⟩
      else if seen.isEmpty then none
      else some ⟨.setting flags, t, length_lt_succ t⟩
    else if seen.contains c then none
    else if c = '-' then
      (flags.settings (c :: seen) false t).map fun p => p.widen (length_le_succ t)
    else do
      let flags ← flags.set? c on
      let rest ← flags.settings (c :: seen) on t
      return rest.widen (length_le_succ t)

def Flags.groupName (flags : Flags) (s : List Char) : Option (Parsed Opening s.length) :=
  match h : s.dropWhile (· != '>') with
  | '>' :: rest =>
    let name := s.takeWhile (· != '>')
    if isGroupName name then
      some ⟨.group true flags (some name), rest, by
        have := (List.dropWhile_suffix (l := s) (· != '>')).length_le
        rw [h] at this
        simp at this
        omega⟩
    else none
  | _ => none

/-- What follows an opening parenthesis. -/
def Flags.opening (flags : Flags) (s : List Char) : Option (Parsed Opening (s.length + 1)) :=
  match s with
  -- looking ahead or behind is no part of the language
  | '?' :: '=' :: _ | '?' :: '!' :: _ => none
  | '?' :: '<' :: '=' :: _ | '?' :: '<' :: '!' :: _ => none
  | '?' :: 'P' :: '<' :: t => (flags.groupName t).map fun p => p.widen (Nat.le_add_right _ 4)
  | '?' :: '<' :: t => (flags.groupName t).map fun p => p.widen (Nat.le_add_right _ 3)
  | '?' :: t => (flags.settings [] true t).map fun p => p.widen (length_le_add_two t)
  | s => some ⟨.group true flags none, s, length_lt_succ s⟩

/-! ### Repetitions -/

def skipWhiteSpace (s : List Char) : List Char := s.dropWhile isWhiteSpace

theorem length_skipWhiteSpace_le (s : List Char) : (skipWhiteSpace s).length ≤ s.length :=
  (List.dropWhile_suffix _).length_le

/-- Decimal digits, between which blanks may stand in a verbose pattern. -/
def Flags.countDigits (flags : Flags) (s : List Char) : Parsed (List Char) (s.length + 1) :=
  match s with
  | [] => ⟨[], [], Nat.zero_lt_one⟩
  | c :: t =>
    if c.isDigit then
      have := flags.length_skip_le t
      let more := flags.countDigits (flags.skip t)
      ⟨c :: more.value, more.rest, by
        have := more.fits
        simp only [List.length_cons]
        omega⟩
    else ⟨[], c :: t, Nat.lt_succ_self _⟩
termination_by s.length
decreasing_by
  simp only [List.length_cons]
  omega

/-- A count, with white space around it; it fits into 32 bits. -/
def Flags.count? (flags : Flags) (s : List Char) : Option Nat × List Char :=
  let digits := flags.countDigits (skipWhiteSpace s)
  let n := natOfDigits digits.value
  (if digits.value.isEmpty ∨ Nat.pow 2 32 ≤ n then none else some n, skipWhiteSpace digits.rest)

theorem Flags.length_count?_le (flags : Flags) (s : List Char) :
    (flags.count? s).2.length ≤ s.length := by
  have h1 := length_skipWhiteSpace_le s
  have h2 := (flags.countDigits (skipWhiteSpace s)).fits
  have h3 := length_skipWhiteSpace_le (flags.countDigits (skipWhiteSpace s)).rest
  simp only [Flags.count?]
  omega

/-- A question mark after a repetition, which makes it lazy; that changes no answer. -/
def skipLazy : List Char → List Char
  | '?' :: s => s
  | s => s

theorem length_skipLazy_le (s : List Char) : (skipLazy s).length ≤ s.length := by
  unfold skipLazy; split <;> simp

theorem Flags.length_skipLazy_skip_le (flags : Flags) (s : List Char) :
    (skipLazy (flags.skip s)).length ≤ s.length :=
  Nat.le_trans (length_skipLazy_le _) (flags.length_skip_le s)

/-- The counts of a repetition, after its opening brace. The least count is always
written. -/
def Flags.counts (flags : Flags) (s : List Char) :
    Option (Parsed (Nat × Option Nat) s.length) := do
  have h0 := flags.length_skip_le s
  let first := flags.count? (flags.skip s)
  have h1 : first.2.length ≤ s.length :=
    Nat.le_trans (flags.length_count?_le (flags.skip s)) h0
  let least ← first.1
  match h : first.2 with
  | '\x7d' :: t =>
    return ⟨(least, some least), skipLazy (flags.skip t),
      Nat.lt_of_le_of_lt (flags.length_skipLazy_skip_le t)
        (Nat.lt_of_lt_of_le (length_lt_of_eq_cons h) h1)⟩
  | ',' :: t =>
    have ht : t.length < s.length := Nat.lt_of_lt_of_le (length_lt_of_eq_cons h) h1
    match h' : flags.skip t with
    | '\x7d' :: u =>
      return ⟨(least, none), skipLazy (flags.skip u),
        Nat.lt_of_le_of_lt (flags.length_skipLazy_skip_le u)
          (Nat.lt_trans (Flags.length_le_of_skip h') ht)⟩
    | _ =>
      let second := flags.count? (flags.skip t)
      have h2 : second.2.length ≤ t.length :=
        Nat.le_trans (flags.length_count?_le (flags.skip t)) (flags.length_skip_le t)
      let most ← second.1
      match h'' : second.2 with
      | '\x7d' :: u =>
        if most < least then none
        else return ⟨(least, some most), skipLazy (flags.skip u),
          Nat.lt_of_le_of_lt (flags.length_skipLazy_skip_le u)
            (Nat.lt_trans (Nat.lt_of_lt_of_le (length_lt_of_eq_cons h'') h2) ht)⟩
      | _ => none
  | _ => none

/-! ### Expressions -/

def Flags.primitive (flags : Flags) (s : List Char) : Option (Parsed Item s.length) :=
  match s with
  | [] => none
  | '\\' :: t => do
    let atom ← flags.escape t
    let regex ← match atom.value with
      | .literal c byte =>
        -- a byte beyond ASCII is no character
        if byte && !flags.unicode && 0x80 ≤ c.toNat then none else some (.char (flags.literal c))
      | .set set => some (.char set)
      | .look condition => some (.look condition)
    return (atom.map fun _ => ⟨regex, 0, false⟩).widen (length_le_succ t)
  | '.' :: t => flags.dot.map fun set => ⟨⟨.char set, 0, false⟩, t, length_lt_succ t⟩
  | '^' :: t => some ⟨⟨.look flags.lineStart, 0, false⟩, t, length_lt_succ t⟩
  | '$' :: t => some ⟨⟨.look flags.lineEnd, 0, false⟩, t, length_lt_succ t⟩
  | c :: t => some ⟨⟨.char (flags.literal c), 0, false⟩, t, length_lt_succ t⟩

/-- What has been read of a group: its alternatives, and the items of the one at hand, each
with the last one first. -/
structure OpenGroup where
  branches : List Item := []
  items : List Item := []

def OpenGroup.add (g : OpenGroup) (item : Item) : OpenGroup := { g with items := item :: g.items }

def OpenGroup.branch (g : OpenGroup) : OpenGroup := { branches := concat g.items :: g.branches }

def OpenGroup.close (g : OpenGroup) : Item := alternatives g.branch.branches

def OpenGroup.repeatLast (g : OpenGroup) (least : Nat) (most : Option Nat) : Option OpenGroup :=
  (Regex.repeatLast least most g.items).map fun items => { g with items }

/-- What a group leaves behind: itself, and all names of groups up to its end. -/
structure Closed where
  item : Item
  names : List (List Char)

/-- The rest of a group, up to a closing parenthesis or the end of the pattern. -/
def Flags.group (flags : Flags) (names : List (List Char)) (g : OpenGroup) (s : List Char) :
    Option (Parsed Closed (s.length + 1)) :=
  match h : flags.skip s with
  | [] => some ⟨⟨g.close, names⟩, [], Nat.succ_pos _⟩
  -- the group around it takes the parenthesis
  | ')' :: t =>
    some ⟨⟨g.close, names⟩, ')' :: t, Nat.lt_succ_of_le (Flags.length_le_of_skip h)⟩
  | '|' :: t => do
    have : t.length < s.length := Flags.length_le_of_skip h
    let rest ← flags.group names g.branch t
    return rest.widen (Nat.succ_le_succ (Nat.le_of_lt this))
  | '(' :: t => do
    let opening ← flags.opening (flags.skip t)
    have ho : opening.rest.length < s.length :=
      Nat.lt_of_lt_of_le opening.fits
        (Nat.le_trans (Nat.succ_le_succ (flags.length_skip_le t)) (Flags.length_le_of_skip h))
    match opening.value with
    -- the setting holds to the end of this group
    | .setting flags =>
      let rest ← flags.group names (g.add ⟨.empty, 0, true⟩) opening.rest
      return rest.widen (Nat.succ_le_succ (Nat.le_of_lt ho))
    | .group numbered inner name =>
      if name.any names.contains then none
      let body ← inner.group (name.toList ++ names) {} opening.rest
      match h' : body.rest with
      | ')' :: u => do
        have hu : u.length < s.length :=
          Nat.lt_trans
            (Nat.lt_of_lt_of_le (length_lt_of_eq_cons h') (Nat.le_of_lt_succ body.fits)) ho
        let item := body.value.item
        let rest ← flags.group body.value.names
          (g.add ⟨.group numbered item.regex, item.depth + 1, false⟩) u
        return rest.widen (Nat.succ_le_succ (Nat.le_of_lt hu))
      | _ => none
  | '[' :: t => do
    let set ← flags.bracketed t
    have : set.rest.length < s.length := Nat.lt_trans set.fits (Flags.length_le_of_skip h)
    let rest ← flags.group names (g.add ⟨.char set.value.set, set.value.depth, false⟩) set.rest
    return rest.widen (Nat.succ_le_succ (Nat.le_of_lt this))
  | '?' :: t => do
    have : (skipLazy t).length < s.length :=
      Nat.lt_of_le_of_lt (length_skipLazy_le t) (Flags.length_le_of_skip h)
    let rest ← flags.group names (← g.repeatLast 0 (some 1)) (skipLazy t)
    return rest.widen (Nat.succ_le_succ (Nat.le_of_lt this))
  | '*' :: t => do
    have : (skipLazy t).length < s.length :=
      Nat.lt_of_le_of_lt (length_skipLazy_le t) (Flags.length_le_of_skip h)
    let rest ← flags.group names (← g.repeatLast 0 none) (skipLazy t)
    return rest.widen (Nat.succ_le_succ (Nat.le_of_lt this))
  | '+' :: t => do
    have : (skipLazy t).length < s.length :=
      Nat.lt_of_le_of_lt (length_skipLazy_le t) (Flags.length_le_of_skip h)
    let rest ← flags.group names (← g.repeatLast 1 none) (skipLazy t)
    return rest.widen (Nat.succ_le_succ (Nat.le_of_lt this))
  | '\x7b' :: t => do
    let counts ← flags.counts t
    have : counts.rest.length < s.length := Nat.lt_trans counts.fits (Flags.length_le_of_skip h)
    let rest ← flags.group names (← g.repeatLast counts.value.1 counts.value.2) counts.rest
    return rest.widen (Nat.succ_le_succ (Nat.le_of_lt this))
  | c :: t => do
    let item ← flags.primitive (c :: t)
    have : item.rest.length < s.length := Nat.lt_of_lt_of_le item.fits (Flags.length_le_of_skip h)
    let rest ← flags.group names (g.add item.value) item.rest
    return rest.widen (Nat.succ_le_succ (Nat.le_of_lt this))
termination_by s.length

/-! ### Limits -/

/-- How deep groups, repetitions, alternatives and sequences may nest. -/
def depthLimit : Nat := 250

def parse? (pattern : String) : Option Regex := do
  let flags : Flags := {}
  let whole ← flags.group [] {} pattern.toList
  let item := whole.value.item
  if whole.rest.isEmpty && item.depth ≤ depthLimit && item.regex.shape.fits then
    return item.regex
  else none

end JsonQuery.Regex
