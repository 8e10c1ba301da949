import JsonQuery.Query.Reading
import JsonQuery.Query.Text
import Mathlib.Tactic.Lemma

/-!
The grammar of query texts. Strings, integers, numbers and names are the tokens that the
readers of tokens accept as a whole; `B` stands for blanks, of which there may be none.

* query: `'$' (B segment)*`
* segment: `'.' ('*' | name)`, `'..' ('*' | name | bracketed)` or `bracketed`
* bracketed: `'[' B selector B (',' B selector B)* ']'`
* selector: `'*'`, string, `'?' filter`, int or `[int B] ':' B [int B] [':' B [int B]]`
* filter: `conjunction ('||' conjunction)*`
* conjunction: `comparison ('&&' comparison)*`
* comparison: `operand [operator operand]`
* operand: `B ('!' operand | primary B)`
* primary: `'(' filter ')'`, string, number, keyword, `('$' | '@') (B segment)*`,
  `name '(' B ')'` or `name '(' filter (',' filter)* ')'`
-/

namespace JsonQuery

/-- What was read and the text after it, without the bound on its length. -/
def Parsed.plain {α : Type} {n : Nat} (p : Parsed α n) : α × List Char := (p.value, p.rest)

/-- What a reader takes from a text, if it does not fail. -/
def taken {α : Type} {n : Nat} (x : Except Failure (Parsed α n)) : Option (α × List Char) :=
  x.toOption.map Parsed.plain

section Taken

variable {α β : Type} {m n : Nat}

@[simp] lemma taken_ok (p : Parsed α n) : taken (.ok p) = some p.plain := rfl

@[simp] lemma taken_error (e : Failure) : taken (.error e : Except Failure (Parsed α n)) = none :=
  rfl

lemma taken_eq_some_iff {x : Except Failure (Parsed α n)} {a : α} {rest : List Char} :
    taken x = some (a, rest) ↔ ∃ h, x = .ok ⟨a, rest, h⟩ := by
  constructor
  · intro h
    cases x with
    | error e => cases h
    | ok p =>
      cases h
      exact ⟨p.fits, rfl⟩
  · rintro ⟨h, rfl⟩
    rfl

lemma taken_bind {x : Except Failure (Parsed α m)}
    {f : Parsed α m → Except Failure (Parsed β n)} {g : α × List Char → Option (β × List Char)}
    (h : ∀ p, taken (f p) = g p.plain) : taken (x >>= f) = (taken x).bind g := by
  cases x with
  | error e => rfl
  | ok p => exact h p

lemma taken_map {x : Except Failure (Parsed α m)} {f : Parsed α m → Parsed β n}
    {g : α × List Char → β × List Char} (h : ∀ p, (f p).plain = g p.plain) :
    taken (x.map f) = (taken x).map g := by
  cases x with
  | error e => rfl
  | ok p => exact congrArg some (h p)

lemma taken_bind_pure {x : Except Failure (Parsed α m)} {f : Parsed α m → Parsed β n}
    {g : α × List Char → β × List Char} (h : ∀ p, (f p).plain = g p.plain) :
    taken (x >>= fun p => pure (f p)) = (taken x).map g := by
  cases x with
  | error e => rfl
  | ok p => exact congrArg some (h p)

/-- Widening the bound is not seen. -/
lemma taken_bind_widen {x : Except Failure (Parsed α m)} {f : Parsed α m → Parsed α n}
    (h : ∀ p, (f p).plain = p.plain) : taken (x >>= fun p => pure (f p)) = taken x := by
  cases x with
  | error e => rfl
  | ok p => exact congrArg some (h p)

lemma taken_map_widen {x : Except Failure (Parsed α m)} {f : Parsed α m → Parsed α n}
    (h : ∀ p, (f p).plain = p.plain) : taken (x.map f) = taken x := by
  cases x with
  | error e => rfl
  | ok p => exact congrArg some (h p)

end Taken

namespace Grammar

/-! ### Tokens -/

def Blanks (b : List Char) : Prop := ∀ c ∈ b, isBlank c = true

def IsString (w : List Char) (s : String) : Prop := taken (StringLiteral.read w) = some (s, [])

def IsInt (w : List Char) (n : Int) : Prop := (Token.int? w).map Parsed.plain = some (n, [])

def IsNumber (w : List Char) (x : Double) : Prop :=
  (Token.number? w).map Parsed.plain = some (x, [])

def IsName (w : List Char) : Prop := (Token.name? w).map Parsed.plain = some (w, [])

/-! ### Selectors without filters -/

/-- `'*' | name` -/
inductive IsShorthand : List Char → Selector → Prop
  | wildcard : IsShorthand ['*'] .wildcard
  | name {w : List Char} (h : IsName w) : IsShorthand w (.name (.ofList w))

/-- `[int B]` -/
inductive IsBound : List Char → Option Int → Prop
  | absent : IsBound [] none
  | int {w b : List Char} {n : Int} (h : IsInt w n) (hb : Blanks b) : IsBound (w ++ b) (some n)

/-- `[':' B [int B]]`, where an absent step is one. -/
inductive IsStep : List Char → Int → Prop
  | absent : IsStep [] 1
  | written {b w : List Char} {n : Option Int} (hb : Blanks b) (h : IsBound w n) :
    IsStep (':' :: b ++ w) (n.getD 1)

/-- `[int B] ':' B [int B] [':' B [int B]]` -/
inductive IsSlice : List Char → Slice → Prop
  | intro {v b w x : List Char} {start stop : Option Int} {step : Int} (hv : IsBound v start)
    (hb : Blanks b) (hw : IsBound w stop) (hx : IsStep x step) :
    IsSlice (v ++ ':' :: b ++ w ++ x) ⟨start, stop, step⟩

/-! ### Segments and filters -/

mutual

/-- `(B segment)*` -/
inductive IsSegments : List Char → List Segment → Prop
  | nil : IsSegments [] []
  | cons {b w ws : List Char} {s : Segment} {ss : List Segment} (hb : Blanks b)
    (h : IsSegment w s) (hs : IsSegments ws ss) : IsSegments (b ++ w ++ ws) (s :: ss)

inductive IsSegment : List Char → Segment → Prop
  | child {w : List Char} {s : Selector} (h : IsShorthand w s) :
    IsSegment ('.' :: w) ⟨false, [s]⟩
  | descendant {w : List Char} {s : Selector} (h : IsShorthand w s) :
    IsSegment ('.' :: '.' :: w) ⟨true, [s]⟩
  | bracketed {b w : List Char} {ss : List Selector} (hb : Blanks b) (h : IsSelectors w ss) :
    IsSegment ('[' :: b ++ w ++ [']']) ⟨false, ss⟩
  | descendantBracketed {b w : List Char} {ss : List Selector} (hb : Blanks b)
    (h : IsSelectors w ss) : IsSegment ('.' :: '.' :: '[' :: b ++ w ++ [']']) ⟨true, ss⟩

/-- `selector B (',' B selector B)*` -/
inductive IsSelectors : List Char → List Selector → Prop
  | one {w b : List Char} {s : Selector} (h : IsSelector w s) (hb : Blanks b) :
    IsSelectors (w ++ b) [s]
  | cons {w b b' ws : List Char} {s : Selector} {ss : List Selector} (h : IsSelector w s)
    (hb : Blanks b) (hb' : Blanks b') (hs : IsSelectors ws ss) :
    IsSelectors (w ++ b ++ ',' :: b' ++ ws) (s :: ss)

inductive IsSelector : List Char → Selector → Prop
  | wildcard : IsSelector ['*'] .wildcard
  | name {w : List Char} {key : String} (h : IsString w key) : IsSelector w (.name key)
  | filter {w : List Char} {f : Filter} (h : IsFilter w f) : IsSelector ('?' :: w) (.filter f)
  | index {w : List Char} {n : Int} (h : IsInt w n) : IsSelector w (.index n)
  | slice {w : List Char} {s : Slice} (h : IsSlice w s) : IsSelector w (.slice s)

/-- `conjunction ('||' conjunction)*`, associating to the left. -/
inductive IsFilter : List Char → Filter → Prop
  | one {w : List Char} {f : Filter} (h : IsConjunction w f) : IsFilter w f
  | or {w w' : List Char} {f g : Filter} (h : IsFilter w f) (h' : IsConjunction w' g) :
    IsFilter (w ++ '|' :: '|' :: w') (.binary .or f g)

/-- `comparison ('&&' comparison)*`, associating to the left. -/
inductive IsConjunction : List Char → Filter → Prop
  | one {w : List Char} {f : Filter} (h : IsComparison w f) : IsConjunction w f
  | and {w w' : List Char} {f g : Filter} (h : IsConjunction w f) (h' : IsComparison w' g) :
    IsConjunction (w ++ '&' :: '&' :: w') (.binary .and f g)

/-- `operand [operator operand]` -/
inductive IsComparison : List Char → Filter → Prop
  | one {w : List Char} {f : Filter} (h : IsOperand w f) : IsComparison w f
  | compare {w w' : List Char} {op : Operator} {f g : Filter} (hop : op.isComparison = true)
    (h : IsOperand w f) (h' : IsOperand w' g) :
    IsComparison (w ++ op.symbol.toList ++ w') (.binary op f g)

/-- `B ('!' operand | primary B)` -/
inductive IsOperand : List Char → Filter → Prop
  | not {b w : List Char} {f : Filter} (hb : Blanks b) (h : IsOperand w f) :
    IsOperand (b ++ '!' :: w) (.not f)
  | primary {b w b' : List Char} {f : Filter} (hb : Blanks b) (h : IsPrimary w f)
    (hb' : Blanks b') : IsOperand (b ++ w ++ b') f

inductive IsPrimary : List Char → Filter → Prop
  | parens {w : List Char} {f : Filter} (h : IsFilter w f) : IsPrimary ('(' :: w ++ [')']) f
  | string {w : List Char} {s : String} (h : IsString w s) :
    IsPrimary w (.literal (.string s))
  | number {w : List Char} {x : Double} (h : IsNumber w x) :
    IsPrimary w (.literal (.number (.finite x)))
  | wordTrue : IsPrimary "true".toList (.literal (.bool true))
  | wordFalse : IsPrimary "false".toList (.literal (.bool false))
  | wordNull : IsPrimary "null".toList (.literal .null)
  | query {w : List Char} {origin : Origin} {ss : List Segment} (h : IsSegments w ss) :
    IsPrimary (origin.char :: w) (.query origin ss)
  | callEmpty {n b : List Char} (hn : IsName n) (hb : Blanks b) :
    IsPrimary (n ++ '(' :: b ++ [')']) (.call (.ofList n) [])
  | call {n w : List Char} {args : List Filter} (hn : IsName n) (h : IsArguments w args) :
    IsPrimary (n ++ '(' :: w ++ [')']) (.call (.ofList n) args)

/-- `filter (',' filter)*` -/
inductive IsArguments : List Char → List Filter → Prop
  | one {w : List Char} {f : Filter} (h : IsFilter w f) : IsArguments w [f]
  | cons {w ws : List Char} {f : Filter} {fs : List Filter} (h : IsFilter w f)
    (hs : IsArguments ws fs) : IsArguments (w ++ ',' :: ws) (f :: fs)

end

/-- `'$' (B segment)*` -/
def IsQuery (w : List Char) (q : Query) : Prop := ∃ ws, w = '$' :: ws ∧ IsSegments ws q

end Grammar
end JsonQuery
