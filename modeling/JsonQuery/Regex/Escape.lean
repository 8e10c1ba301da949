import JsonQuery.Regex.Flags
import JsonQuery.Text.StringLiteral

/-!
What follows a backslash in a regular expression: a character, a set of characters or a
condition. In a verbose pattern, blanks and comments may stand within an escape.
-/

namespace JsonQuery.Regex

/-! ### Verbose patterns -/

/-- What is left after blanks, and comments from `#` to the end of their line. -/
def skipComments (s : List Char) : List Char :=
  match s with
  | [] => []
  | c :: t =>
    if isWhiteSpace c then skipComments t
    else if c = '#' then skipComments ((t.dropWhile (· ≠ '\n')).drop 1)
    else c :: t
termination_by s.length
decreasing_by
  · simp
  · have := (List.dropWhile_suffix (l := t) (· ≠ '\n')).length_le
    simp at this ⊢
    omega

theorem length_skipComments_le (s : List Char) : (skipComments s).length ≤ s.length := by
  fun_induction skipComments s with
  | case1 => simp
  | case2 c t _ ih => exact Nat.le_succ_of_le ih
  | case3 t _ ih =>
    have := (List.dropWhile_suffix (l := t) (· ≠ '\n')).length_le
    simp at this ih ⊢
    omega
  | case4 => simp

/-- What does not count in the pattern is skipped, if the pattern is verbose. -/
def Flags.skip (flags : Flags) (s : List Char) : List Char :=
  if flags.verbose then skipComments s else s

theorem Flags.length_skip_le (flags : Flags) (s : List Char) :
    (flags.skip s).length ≤ s.length := by
  unfold Flags.skip
  split
  · exact length_skipComments_le s
  · exact Nat.le_refl _

theorem Flags.length_le_of_skip {flags : Flags} {s t : List Char} (h : flags.skip s = t) :
    t.length ≤ s.length :=
  h ▸ flags.length_skip_le s

/-! ### Escapes -/

/-- What an escape stands for. A byte is a character written with two hexadecimal digits. -/
inductive Atom where
  | literal (char : Char) (byte : Bool)
  | set (set : Unicode.Ranges)
  | look (condition : Look)

def isMeta (c : Char) : Bool := "\\.+*?()|[]\x7b\x7d^$#&-~".toList.contains c

def isEscapable (c : Char) : Bool :=
  isMeta c || (c.toNat < 0x80 && !c.isAlphanum && c != '<' && c != '>')

def control? (c : Char) : Option Char :=
  if c = 'a' then some '\x07'
  else if c = 'f' then some '\x0c'
  else if c = 't' then some '\t'
  else if c = 'n' then some '\n'
  else if c = 'r' then some '\r'
  else if c = 'v' then some '\x0b'
  else none

def Flags.look? (flags : Flags) (c : Char) : Option Look :=
  if c = 'A' then some .textStart
  else if c = 'z' then some .textEnd
  else if c = 'b' then some (.wordBoundary flags.unicode)
  else if c = 'B' then some (.notWordBoundary flags.unicode)
  else if c = '<' then some (.wordStart flags.unicode)
  else if c = '>' then some (.wordEnd flags.unicode)
  else none

def Flags.namedLook? (flags : Flags) (name : List Char) : Option Look :=
  match String.ofList name with
  | "start" => some (.wordStart flags.unicode)
  | "end" => some (.wordEnd flags.unicode)
  | "start-half" => some (.wordStartHalf flags.unicode)
  | "end-half" => some (.wordEndHalf flags.unicode)
  | _ => none

def charOfNat? (n : Nat) : Option Char := if n.isValidChar then some (.ofNat n) else none

def Flags.hexDigits (flags : Flags) :
    (count value : Nat) → (s : List Char) → Option (Parsed Nat (s.length + 1))
  | 0, value, s => some ⟨value, s, length_lt_succ s⟩
  | count + 1, value, s =>
    match s with
    | [] => none
    | c :: t => do
      let digit ← StringLiteral.hexValue? c
      let rest := if count = 0 then t else flags.skip t
      have : rest.length ≤ t.length := by
        simp only [rest]; split
        · exact Nat.le_refl _
        · exact flags.length_skip_le t
      let more ← flags.hexDigits count (value * 16 + digit) rest
      return more.widen (Nat.succ_le_succ (Nat.le_trans this (length_le_succ t)))

def Flags.braced (flags : Flags) (s : List Char) : Option (Parsed (List Char) s.length) :=
  match h : flags.skip s with
  | [] => none
  | '\x7d' :: t => some ⟨[], t, Flags.length_le_of_skip h⟩
  | c :: t => do
    have : t.length + 1 ≤ s.length := Flags.length_le_of_skip h
    let more ← flags.braced t
    return (more.map (c :: ·)).widen (Nat.le_of_succ_le this)
termination_by s.length

def hexNumber? (digits : List Char) : Option Nat :=
  if digits.isEmpty then none
  else digits.foldlM (fun n c => (StringLiteral.hexValue? c).map (n * 16 + ·)) 0

/-- A character by its number, after the letter `x`, `u` or `U`. -/
def Flags.numbered (flags : Flags) (letter : Char) (s : List Char) :
    Option (Parsed Atom (s.length + 1)) :=
  match h : flags.skip s with
  | '\x7b' :: t => do
    have : t.length + 1 ≤ s.length := Flags.length_le_of_skip h
    let digits ← flags.braced t
    let c ← charOfNat? (← hexNumber? digits.value)
    return (digits.map fun _ => .literal c false).widen (by omega)
  | t => do
    let count := if letter = 'x' then 2 else if letter = 'u' then 4 else 8
    let number ← flags.hexDigits count 0 t
    let c ← charOfNat? number.value
    return (number.map fun _ => .literal c (letter == 'x')).widen
      (Nat.succ_le_succ (Flags.length_le_of_skip h))

/-- Splits a text at the first place where the mark stands. -/
def splitAt? (mark : List Char) : List Char → Option (List Char × List Char)
  | [] => none
  | c :: s =>
    if mark.isPrefixOf (c :: s) then some ([], (c :: s).drop mark.length)
    else (splitAt? mark s).map fun p => (c :: p.1, p.2)

/-- The set of a property as written between braces, and whether it is negated there. -/
def property? (text : List Char) : Option (Unicode.Ranges × Bool) :=
  match splitAt? ['!', '='] text with
  | some (name, value) => (Unicode.withValue? name value).map (·, true)
  | none =>
    match (splitAt? [':'] text).orElse fun _ => splitAt? ['='] text with
    | some (name, value) => (Unicode.withValue? name value).map (·, false)
    | none => (Unicode.named? text).map (·, false)

/-- A set of characters by property, after the letter `p` or `P`. -/
def Flags.property (flags : Flags) (negated : Bool) (s : List Char) :
    Option (Parsed Atom s.length) :=
  if !flags.unicode then none
  else
    match h : flags.skip s with
    | [] => none
    | '\x7b' :: t => do
      have : t.length + 1 ≤ s.length := Flags.length_le_of_skip h
      let name ← flags.braced t
      let (set, inverted) ← property? name.value
      let set ← flags.foldAndNegate (negated != inverted) set
      return (name.map fun _ => .set set).widen (Nat.le_of_succ_le this)
    | c :: t => do
      if c = '\\' then none
      let set ← Unicode.named? [c]
      let set ← flags.foldAndNegate negated set
      return ⟨.set set, t, Flags.length_le_of_skip h⟩

def isLookName (c : Char) : Bool := c.isAlpha || c == '-'

/-- A boundary of words, after `\b`. Braces with a name in them choose its kind. -/
def Flags.boundary (flags : Flags) (s : List Char) : Option (Parsed Atom (s.length + 1)) :=
  match s with
  | '\x7b' :: t => do
    match flags.skip t with
    | [] => none
    | c :: _ =>
      if isLookName c then
        let name ← flags.braced t
        let condition ← flags.namedLook? name.value
        return (name.map fun _ => .look condition).widen
          (Nat.le_trans (length_le_succ t) (Nat.le_succ _))
      -- the braces are left for a repetition
      else
        return ⟨.look (.wordBoundary flags.unicode), '\x7b' :: t, Nat.lt_succ_self _⟩
  | s => some ⟨.look (.wordBoundary flags.unicode), s, length_lt_succ s⟩

/-- What follows a backslash. -/
def Flags.escape (flags : Flags) (s : List Char) : Option (Parsed Atom s.length) :=
  match s with
  | [] => none
  | c :: t =>
    -- references to groups are no part of the language
    if c.isDigit then none
    else if c = 'x' ∨ c = 'u' ∨ c = 'U' then
      (flags.numbered c t).map fun p => p.widen (succ_length_le t)
    else if c = 'p' ∨ c = 'P' then
      (flags.property (c == 'P') t).map fun p => p.widen (length_le_succ t)
    else if "dswDSW".toList.contains c then
      (flags.letterClass c).map fun set => ⟨.set set, t, length_lt_succ t⟩
    else if isEscapable c then some ⟨.literal c false, t, length_lt_succ t⟩
    else if c = 'b' then (flags.boundary t).map fun p => p.widen (succ_length_le t)
    else
      match control? c with
      | some x => some ⟨.literal x false, t, length_lt_succ t⟩
      | none => (flags.look? c).map fun look => ⟨.look look, t, length_lt_succ t⟩

end JsonQuery.Regex
