import JsonQuery.Text.Reading

/-!
String literals between single or double quotes. Within the quotes a character stands for
itself, unless it is the quote, the backslash or a control character; a backslash begins an
escape. Between double quotes this is the syntax of JSON strings.
-/

namespace JsonQuery.StringLiteral

def hexValue? (c : Char) : Option Nat :=
  if c.isDigit then some (c.toNat - '0'.toNat)
  else if 'a' ≤ c ∧ c ≤ 'f' then some (c.toNat - 'a'.toNat + 10)
  else if 'A' ≤ c ∧ c ≤ 'F' then some (c.toNat - 'A'.toNat + 10)
  else none

def fourHexDigits? : (s : List Char) → Option (Parsed Nat s.length)
  | a :: b :: c :: d :: rest =>
    match hexValue? a, hexValue? b, hexValue? c, hexValue? d with
    | some a, some b, some c, some d =>
      some ⟨((a * 16 + b) * 16 + c) * 16 + d, rest, by simp; omega⟩
    | _, _, _, _ => none
  | _ => none

def isHighSurrogate (n : Nat) : Bool := 0xD800 ≤ n && n ≤ 0xDBFF

def isLowSurrogate (n : Nat) : Bool := 0xDC00 ≤ n && n ≤ 0xDFFF

def ofSurrogates (high low : Nat) : Char :=
  .ofNat (0x10000 + (high - 0xD800) * 0x400 + (low - 0xDC00))

/-- The second half of a surrogate pair, as an escape of its own. -/
def lowSurrogate? : (s : List Char) → Option (Parsed Nat s.length)
  | '\\' :: 'u' :: s => do
    let low ← fourHexDigits? s
    if isLowSurrogate low.value then return low.widen (by simp; omega) else none
  | _ => none

/-- The digits of a hexadecimal escape that began at `start`. -/
def readUnicode (start s : List Char) : Except Failure (Parsed Char s.length) :=
  match fourHexDigits? s with
  | none => .error ⟨.badEscape, start⟩
  | some high =>
    if isHighSurrogate high.value then
      match lowSurrogate? high.rest with
      -- the missing half is an error where it should be, a lone one at the start
      | none => .error ⟨.badEscape, high.rest⟩
      | some low =>
        .ok ⟨ofSurrogates high.value low.value, low.rest, Nat.lt_trans low.fits high.fits⟩
    else if isLowSurrogate high.value then .error ⟨.badEscape, start⟩
    else .ok ⟨.ofNat high.value, high.rest, high.fits⟩

/-- What a letter after a backslash stands for, the hexadecimal escape apart. -/
def shortEscape? (quote c : Char) : Option Char :=
  if c = '\\' ∨ c = '/' ∨ c = quote then some c
  else if c = 'b' then some '\x08'
  else if c = 'f' then some '\x0c'
  else if c = 'n' then some '\n'
  else if c = 'r' then some '\r'
  else if c = 't' then some '\t'
  else none

/-- The text after a backslash; `start` is the text from the backslash on. -/
def readEscape (quote : Char) (start : List Char) :
    (s : List Char) → Except Failure (Parsed Char s.length)
  | [] => .error ⟨.badEscape, start⟩
  | c :: s =>
    match shortEscape? quote c with
    | some x => .ok ⟨x, s, length_lt_succ s⟩
    | none =>
      if c = 'u' then (readUnicode start s).map fun p => p.widen (length_le_succ s)
      else .error ⟨.badEscape, start⟩

/-- The text after the opening quote, up to the closing one. -/
def readBody (quote : Char) (s : List Char) : Except Failure (Parsed (List Char) s.length) :=
  match s with
  | [] => .error ⟨.unterminatedString, []⟩
  | c :: t =>
    if c = quote then .ok ⟨[], t, length_lt_succ t⟩
    else if c.toNat < 0x20 then .error ⟨.badEscape, c :: t⟩
    else if c = '\\' then do
      let x ← readEscape quote (c :: t) t
      have := x.fits
      let more ← readBody quote x.rest
      return ⟨x.value :: more.value, more.rest, by have := more.fits; simp; omega⟩
    else do
      let more ← readBody quote t
      return ⟨c :: more.value, more.rest, by have := more.fits; simp; omega⟩
termination_by s.length
decreasing_by all_goals simp_all <;> omega

def read : (s : List Char) → Except Failure (Parsed String s.length)
  | '\'' :: s => (readBody '\'' s).map fun p => (p.map String.ofList).widen (length_le_succ s)
  | '"' :: s => (readBody '"' s).map fun p => (p.map String.ofList).widen (length_le_succ s)
  | s => .error ⟨.unterminatedString, s⟩

end JsonQuery.StringLiteral
