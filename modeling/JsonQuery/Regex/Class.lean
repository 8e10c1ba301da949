import JsonQuery.Regex.Escape

/-!
Sets of characters between brackets: characters, ranges, escapes, named classes and further
brackets, joined by union and by the operators `&&`, `--` and `~~`, which associate to the
left.
-/

namespace JsonQuery.Regex

/-- A set, and how deep its brackets and operators nest. -/
structure NestedSet where
  set : Unicode.Ranges
  depth : Nat

inductive SetOperator where
  | intersection
  | difference
  | symmetricDifference

def SetOperator.apply : SetOperator → Unicode.Ranges → Unicode.Ranges → Unicode.Ranges
  | .intersection, a, b => a.inter b
  | .difference, a, b => a.diff b
  | .symmetricDifference, a, b => a.symmDiff b

/-- What has been read of a bracket: the operand before the last operator, and the entries of
the union after it. -/
structure OpenClass where
  pending : Option (SetOperator × NestedSet) := none
  set : Unicode.Ranges := []
  entries : Nat := 0
  depth : Nat := 0

namespace OpenClass

def add (c : OpenClass) (entry : NestedSet) : OpenClass :=
  { c with
    set := c.set.union entry.set
    entries := c.entries + 1
    depth := max c.depth entry.depth }

/-- The set so far; the operands of an operator are closed under case before it applies. -/
def close (flags : Flags) (c : OpenClass) : NestedSet :=
  let depth := if c.entries < 2 then c.depth else c.depth + 1
  match c.pending with
  | none => ⟨c.set, depth⟩
  | some (op, left) => ⟨op.apply (flags.fold left.set) (flags.fold c.set), max left.depth depth + 1⟩

/-- An operator makes all that stands before it its left operand. -/
def operate (flags : Flags) (op : SetOperator) (c : OpenClass) : OpenClass :=
  { pending := some (op, c.close flags) }

end OpenClass

def Flags.classLiteral (flags : Flags) (c : Char) : Option Unicode.Ranges :=
  flags.allow [(c.toNat, c.toNat)]

/-- The hyphens at the start of a bracket, which stand for themselves. -/
def Flags.leadingHyphens (flags : Flags) (s : List Char) : OpenClass × List Char :=
  match h : flags.skip s with
  | '-' :: t =>
    have : t.length < s.length := Flags.length_le_of_skip h
    let (c, rest) := flags.leadingHyphens t
    (c.add ⟨[(0x2D, 0x2D)], 0⟩, rest)
  | t => ({}, t)
termination_by s.length

theorem Flags.length_leadingHyphens_le (flags : Flags) (s : List Char) :
    (flags.leadingHyphens s).2.length ≤ s.length := by
  fun_induction Flags.leadingHyphens flags s with
  | case1 s t h hlt c rest heq ih =>
    rw [heq] at ih
    exact Nat.le_trans ih (Nat.le_of_lt hlt)
  | case2 s t => exact flags.length_skip_le s

def Flags.classMark (flags : Flags) (s : List Char) : Bool × List Char :=
  match flags.skip s with
  | '^' :: t => (true, t)
  | t => (false, t)

theorem Flags.length_classMark_le (flags : Flags) (s : List Char) :
    (flags.classMark s).2.length ≤ s.length := by
  unfold Flags.classMark
  split
  · rename_i t h
    exact Nat.le_of_succ_le (Flags.length_le_of_skip h)
  · exact flags.length_skip_le s

/-- What stands after an opening bracket: a mark of negation, then hyphens, or a closing
bracket that stands for itself. -/
def Flags.openClass (flags : Flags) (s : List Char) :
    Parsed (Bool × OpenClass) (s.length + 1) :=
  let negated := (flags.classMark s).1
  let t := (flags.classMark s).2
  have ht : t.length ≤ s.length := flags.length_classMark_le s
  have := flags.length_leadingHyphens_le t
  match h : flags.leadingHyphens t with
  | (c, ']' :: rest) =>
    if c.entries = 0 then
      ⟨(negated, c.add ⟨[(0x5D, 0x5D)], 0⟩), rest, by
        simp only [h, List.length_cons] at this
        omega⟩
    else ⟨(negated, c), ']' :: rest, by
      simp only [h] at this
      omega⟩
  | (c, rest) => ⟨(negated, c), rest, by
      simp only [h] at this
      omega⟩

def Flags.namedClass (flags : Flags) (s : List Char) :
    Option (Parsed (Option NestedSet) s.length) :=
  match s with
  | ':' :: t =>
    let negated := t.head? == some '^'
    let t' := if negated then t.drop 1 else t
    have ht : t'.length ≤ t.length := by simp only [t']; split <;> simp
    match h : t'.dropWhile (· != ':') with
    | ':' :: ']' :: rest =>
      have : rest.length + 2 ≤ t'.length := by
        have := (List.dropWhile_suffix (l := t') (· != ':')).length_le
        rw [h] at this
        exact this
      (asciiClass? (t'.takeWhile (· != ':'))).map fun set =>
        ⟨(flags.foldAndNegate negated set).map (⟨·, 0⟩), rest,
          Nat.lt_of_lt_of_le (length_lt_add_two rest) (Nat.le_succ_of_le (Nat.le_trans this ht))⟩
    | _ => none
  | _ => none

/-- An entry that is no bracket: a character, or an escape that stands for a character or a
set. -/
def Flags.classAtom (flags : Flags) (s : List Char) : Option (Parsed Atom s.length) :=
  match s with
  | [] => none
  | '\\' :: t => (flags.escape t).map fun p => p.widen (length_le_succ t)
  | c :: t => some ⟨.literal c false, t, length_lt_succ t⟩

def Flags.atomSet (flags : Flags) : Atom → Option Unicode.Ranges
  | .literal c _ => flags.classLiteral c
  | .set set => some set
  | .look _ => none

def Flags.atomRange (flags : Flags) : Atom → Atom → Option Unicode.Ranges
  | .literal first _, .literal last _ =>
    if first.toNat ≤ last.toNat then flags.allow [(first.toNat, last.toNat)] else none
  | _, _ => none

def Flags.classRange (flags : Flags) (s : List Char) :
    Option (Parsed Unicode.Ranges s.length) := do
  let first ← flags.classAtom s
  have := first.fits
  match h : flags.skip first.rest with
  | [] => none
  | '-' :: t =>
    have hrest : t.length + 1 ≤ first.rest.length := Flags.length_le_of_skip h
    match flags.skip t with
    -- a hyphen that makes no range: it stands for itself, or is half of an operator
    | ']' :: _ | '-' :: _ =>
      return ⟨← flags.atomSet first.value, '-' :: t, by
        simp only [List.length_cons]
        omega⟩
    | u =>
      have hu := flags.length_skip_le t
      let last ← flags.classAtom (flags.skip t)
      return ⟨← flags.atomRange first.value last.value, last.rest, by
        have := last.fits
        omega⟩
  | c :: t => return ⟨← flags.atomSet first.value, c :: t, by
      have := Flags.length_le_of_skip h
      omega⟩

def Flags.classBody (flags : Flags) (c : OpenClass) (s : List Char) :
    Option (Parsed NestedSet s.length) :=
  match h : flags.skip s with
  | [] => none
  | ']' :: t => some ⟨c.close flags, t, Flags.length_le_of_skip h⟩
  | '&' :: '&' :: t => do
    have : t.length < s.length := Nat.le_of_succ_le (Flags.length_le_of_skip h)
    let rest ← flags.classBody (c.operate flags .intersection) t
    return rest.widen (by omega)
  | '-' :: '-' :: t => do
    have : t.length < s.length := Nat.le_of_succ_le (Flags.length_le_of_skip h)
    let rest ← flags.classBody (c.operate flags .difference) t
    return rest.widen (by omega)
  | '~' :: '~' :: t => do
    have : t.length < s.length := Nat.le_of_succ_le (Flags.length_le_of_skip h)
    let rest ← flags.classBody (c.operate flags .symmetricDifference) t
    return rest.widen (by omega)
  | '[' :: t => do
    have : t.length < s.length := Flags.length_le_of_skip h
    match flags.namedClass t with
    -- a class by its name, such as `[:alpha:]`
    | some named => do
      have := named.fits
      let rest ← flags.classBody (c.add (← named.value)) named.rest
      return rest.widen (by omega)
    -- a set within the set
    | none => do
      have := (flags.openClass t).fits
      let inner ← flags.classBody (flags.openClass t).value.2 (flags.openClass t).rest
      have := inner.fits
      let set ← flags.foldAndNegate (flags.openClass t).value.1 inner.value.set
      let rest ← flags.classBody (c.add ⟨set, inner.value.depth + 1⟩) inner.rest
      return rest.widen (by omega)
  | d :: t => do
    let entry ← flags.classRange (d :: t)
    have := entry.fits
    have : entry.rest.length < s.length :=
      Nat.lt_of_lt_of_le this (Flags.length_le_of_skip h)
    let rest ← flags.classBody (c.add ⟨entry.value, 0⟩) entry.rest
    return rest.widen (by omega)
termination_by s.length

def Flags.bracketed (flags : Flags) (s : List Char) : Option (Parsed NestedSet s.length) := do
  let opened := flags.openClass s
  have := opened.fits
  let inner ← flags.classBody opened.value.2 opened.rest
  have := inner.fits
  let set ← flags.foldAndNegate opened.value.1 inner.value.set
  return ⟨⟨set, inner.value.depth + 1⟩, inner.rest, by omega⟩

end JsonQuery.Regex
