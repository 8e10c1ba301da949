import JsonQuery.Proofs.PatternReading

/-!
Escapes in patterns, with a character put after the text. They are read the same way, but for
`\b` and a brace: whether the brace names the kind of boundary depends on what follows it, so
that with the further character the brace is left over.
-/

namespace JsonQuery.Regex

section Escapes

variable {c : Char} (flags : Flags)

lemma plain_hexDigits (count value : Nat) (s : List Char) :
    plain (flags.hexDigits (count + 1) value s) = match s with
      | [] => none
      | d :: t => (StringLiteral.hexValue? d).bind fun digit =>
        if count = 0 then plain (flags.hexDigits count (value * 16 + digit) t)
        else plain (flags.hexDigits count (value * 16 + digit) (flags.skip t)) := by
  cases s with
  | nil => rfl
  | cons d t =>
    rw [Flags.hexDigits]
    dsimp only
    cases StringLiteral.hexValue? d with
    | none => rfl
    | some digit =>
      refine Eq.trans (plain_widen fun p => rfl) ?_
      let read := fun u => plain (flags.hexDigits count (value * 16 + digit) u)
      split_ifs with h0
      · exact congrArg read (if_pos h0)
      · exact congrArg read (if_neg h0)

lemma hexDigits_appended (hc : IsCloser c) (count value : Nat) (s : List Char) :
    Appended c (plain (flags.hexDigits count value s))
      (plain (flags.hexDigits count value (s ++ [c]))) := by
  induction count generalizing value s with
  | zero => exact .left
  | succ count ih =>
    have hnil : ∀ value, Exhausts (plain (flags.hexDigits count value [])) := fun value =>
      exhausts_plain (Nat.le_refl 1) _
    rw [plain_hexDigits, plain_hexDigits]
    cases s with
    | nil =>
      have hhex : StringLiteral.hexValue? c = none := by rcases hc with rfl | rfl <;> decide
      refine .failed ?_
      simp only [List.nil_append, hhex, Option.bind_none]
      exact exhausts_none
    | cons d t =>
      simp only [List.cons_append]
      cases StringLiteral.hexValue? d with
      | none => exact appended_none
      | some digit =>
        simp only [Option.bind_some]
        split_ifs
        · exact ih _ t
        · obtain h | ⟨h, h'⟩ := skip_append flags hc t
          · rw [h]
            exact ih _ _
          · rw [h, h']
            exact .same (hnil _)

lemma plain_braced (s : List Char) :
    plain (flags.braced s) = match flags.skip s with
      | [] => none
      | d :: t =>
        if d = '\x7d' then some ([], t)
        else (plain (flags.braced t)).map fun p => (d :: p.1, p.2) := by
  rw [Flags.braced]
  split
  · rename_i hs
    rw [hs]
    rfl
  · rename_i t hs
    simp only [hs]
    rfl
  · rename_i d t hd hs
    simp only [hs, if_neg hd]
    exact plain_bind_pure fun p => rfl

lemma braced_nil : flags.braced [] = none := by
  rw [Flags.braced]
  split
  · rfl
  · rename_i h
    rw [skip_nil] at h
    cases h
  · rename_i h
    rw [skip_nil] at h
    cases h

lemma braced_appended (hc : IsCloser c) (s : List Char) :
    Appended c (plain (flags.braced s)) (plain (flags.braced (s ++ [c]))) := by
  have hbrace : c ≠ '\x7d' := hc.ne (by decide)
  rw [plain_braced, plain_braced]
  obtain ⟨d, t, hs, hs'⟩ | ⟨hs, hs' | hs'⟩ := skip_append_cases flags hc s
  · have hlt : t.length < s.length := Flags.length_le_of_skip hs
    rw [hs, hs']
    dsimp only
    split_ifs
    · exact .left
    · exact (braced_appended hc t).map
  · rw [hs, hs']
    dsimp only
    rw [if_neg hbrace, braced_nil]
    exact appended_none
  · rw [hs, hs']
    exact appended_none
termination_by s.length

/-- The letter of an escape by number tells how many digits follow. -/
def numberLength (letter : Char) : Nat := if letter = 'x' then 2 else if letter = 'u' then 4 else 8

/-- The character of a number in braces. -/
def bracedAtom (digits : List Char) : Option Atom :=
  ((hexNumber? digits).bind charOfNat?).map (.literal · false)

/-- The character of a number without braces. -/
def digitsAtom (letter : Char) (n : Nat) : Option Atom :=
  (charOfNat? n).map (.literal · (letter == 'x'))

lemma plain_numbered (letter : Char) (s : List Char) :
    plain (flags.numbered letter s) = match flags.skip s with
      | [] => recast (digitsAtom letter) (plain (flags.hexDigits (numberLength letter) 0 []))
      | d :: t =>
        if d = '\x7b' then recast bracedAtom (plain (flags.braced t))
        else recast (digitsAtom letter)
          (plain (flags.hexDigits (numberLength letter) 0 (d :: t))) := by
  rw [Flags.numbered]
  split
  · rename_i t hs
    simp only [hs, if_true]
    refine plain_recast fun p => ?_
    rw [bracedAtom]
    cases hexNumber? p.value with
    | none => rfl
    | some n =>
      dsimp only [bind, Option.bind_some]
      cases charOfNat? n <;> rfl
  · rename_i hne
    refine (plain_recast (g := digitsAtom letter) fun p => ?_).trans ?_
    · rw [digitsAtom]
      cases charOfNat? p.value <;> rfl
    · rcases hs : flags.skip s with _ | ⟨d, t⟩
      · rfl
      · have hd : d ≠ '\x7b' := ne_of_not_cons hne hs
        dsimp only
        rw [if_neg hd]
        rfl

lemma numbered_appended (hc : IsCloser c) (letter : Char) (s : List Char) :
    Appended c (plain (flags.numbered letter s)) (plain (flags.numbered letter (s ++ [c]))) := by
  have hbrace : c ≠ '\x7b' := hc.ne (by decide)
  rw [plain_numbered, plain_numbered]
  obtain ⟨d, t, hs, hs'⟩ | ⟨hs, hs' | hs'⟩ := skip_append_cases flags hc s
  · rw [hs, hs']
    dsimp only
    split_ifs
    · exact (braced_appended flags hc t).recast _
    · exact (hexDigits_appended flags hc _ _ (d :: t)).recast _
  · rw [hs, hs']
    dsimp only
    rw [if_neg hbrace]
    exact (hexDigits_appended flags hc _ _ []).recast _
  · rw [hs, hs']
    exact .same ((exhausts_plain (Nat.le_refl 1) (flags.hexDigits _ 0 [])).recast _)

/-- The set of a property in braces. -/
def propertyAtom (flags : Flags) (negated : Bool) (name : List Char) : Option Atom :=
  (property? name).bind fun p => (flags.foldAndNegate (negated != p.2) p.1).map .set

/-- The set of a property of one letter. -/
def letterAtom (flags : Flags) (negated : Bool) (c : Char) : Option Atom :=
  if c = '\\' then none
  else (Unicode.named? [c]).bind fun set => (flags.foldAndNegate negated set).map .set

lemma plain_property (negated : Bool) (s : List Char) :
    plain (flags.property negated s) =
      if flags.unicode then match flags.skip s with
        | [] => none
        | d :: t =>
          if d = '\x7b' then recast (propertyAtom flags negated) (plain (flags.braced t))
          else recast (letterAtom flags negated) (some (d, t))
      else none := by
  rw [Flags.property]
  cases flags.unicode with
  | false => rfl
  | true =>
    simp only [Bool.not_true, Bool.false_eq_true, if_false, if_true]
    split
    · rename_i hs
      rw [hs]
      rfl
    · rename_i t hs
      simp only [hs, if_true]
      refine plain_recast fun p => ?_
      rw [propertyAtom]
      cases property? p.value with
      | none => rfl
      | some q =>
        dsimp only [bind, Option.bind_some]
        cases flags.foldAndNegate (negated != q.2) q.1 <;> rfl
    · rename_i d t hne hs
      simp only [hs, if_neg hne]
      rw [recast, Option.bind_some, letterAtom]
      dsimp only
      split_ifs
      · rfl
      · cases Unicode.named? [d] with
        | none => rfl
        | some set =>
          dsimp only [bind, Option.bind_some]
          cases flags.foldAndNegate negated set <;> rfl

lemma property_appended (hc : IsCloser c) (negated : Bool) (s : List Char) :
    Appended c (plain (flags.property negated s)) (plain (flags.property negated (s ++ [c]))) := by
  have hbrace : c ≠ '\x7b' := hc.ne (by decide)
  rw [plain_property, plain_property]
  split_ifs
  · obtain ⟨d, t, hs, hs'⟩ | ⟨hs, hs' | hs'⟩ := skip_append_cases flags hc s
    · rw [hs, hs']
      dsimp only
      split_ifs
      · exact (braced_appended flags hc t).recast _
      · exact Appended.left.recast _
    · rw [hs, hs']
      dsimp only
      rw [if_neg hbrace]
      exact .failed ((exhausts_nil c).recast _)
    · rw [hs, hs']
      exact appended_none
  · exact appended_none

/-- Whether a brace after `\\b` belongs to the escape is open at the end of a text; with a
further character, the brace is left over. -/
def BraceLeft (c : Char) (x y : Option (Atom × List Char)) : Prop :=
  x = none ∧ ∃ condition t, flags.skip t = [] ∧ y = some (.look condition, '\x7b' :: (t ++ [c]))

lemma plain_boundary (s : List Char) :
    plain (flags.boundary s) = match s with
      | [] => some (.look (.wordBoundary flags.unicode), [])
      | d :: t =>
        if d = '\x7b' then match flags.skip t with
          | [] => none
          | e :: _ =>
            if isLookName e then
              recast (fun name => (flags.namedLook? name).map .look) (plain (flags.braced t))
            else some (.look (.wordBoundary flags.unicode), d :: t)
        else some (.look (.wordBoundary flags.unicode), d :: t) := by
  rw [Flags.boundary.eq_def]
  split
  · rename_i t
    dsimp only
    rw [if_pos rfl]
    rcases flags.skip t with _ | ⟨e, u⟩
    · rfl
    · dsimp only
      split_ifs
      · refine plain_recast fun p => ?_
        cases flags.namedLook? p.value <;> rfl
      · rfl
  · rename_i hne
    cases s with
    | nil => rfl
    | cons d t =>
      have hd : d ≠ '\x7b' := ne_of_not_cons hne rfl
      dsimp only
      rw [if_neg hd]
      rfl

lemma boundary_appended (hc : IsCloser c) (s : List Char) :
    Appended c (plain (flags.boundary s)) (plain (flags.boundary (s ++ [c]))) ∨
      BraceLeft flags c (plain (flags.boundary s)) (plain (flags.boundary (s ++ [c]))) := by
  have hbrace : c ≠ '\x7b' := hc.ne (by decide)
  have hname : isLookName c = false := by rcases hc with rfl | rfl <;> decide
  rw [plain_boundary, plain_boundary]
  cases s with
  | nil =>
    dsimp only [List.nil_append]
    rw [if_neg hbrace]
    exact .inl (appended_some _ (.inl rfl))
  | cons d t =>
    dsimp only [List.cons_append]
    split_ifs with hd
    · obtain ⟨e, u, hs, hs'⟩ | ⟨hs, hs' | hs'⟩ := skip_append_cases flags hc t
      · rw [hs, hs']
        dsimp only
        split_ifs
        · exact .inl ((braced_appended flags hc t).recast _)
        · exact .inl .left
      · -- the further character begins no name, so that the brace is left
        rw [hs, hs']
        dsimp only
        rw [hname, if_neg Bool.false_ne_true, hd]
        exact .inr ⟨rfl, _, t, hs, rfl⟩
      · rw [hs, hs']
        exact .inl appended_none
    · exact .inl .left

lemma plain_escape (s : List Char) :
    plain (flags.escape s) = match s with
      | [] => none
      | d :: t =>
        if d.isDigit then none
        else if d = 'x' ∨ d = 'u' ∨ d = 'U' then plain (flags.numbered d t)
        else if d = 'p' ∨ d = 'P' then plain (flags.property (d == 'P') t)
        else if "dswDSW".toList.contains d then
          ((flags.letterClass d).map Atom.set).map (·, t)
        else if isEscapable d then some (.literal d false, t)
        else if d = 'b' then plain (flags.boundary t)
        else match control? d with
          | some x => some (.literal x false, t)
          | none => ((flags.look? d).map Atom.look).map (·, t) := by
  cases s with
  | nil => rfl
  | cons d t =>
    rw [Flags.escape]
    dsimp only
    split_ifs
    · rfl
    · exact plain_map_widen fun p => rfl
    · exact plain_map_widen fun p => rfl
    · cases flags.letterClass d <;> rfl
    · rfl
    · exact plain_map_widen fun p => rfl
    · cases control? d with
      | some x => rfl
      | none => cases flags.look? d <;> rfl

lemma escape_appended (hc : IsCloser c) (s : List Char) :
    Appended c (plain (flags.escape s)) (plain (flags.escape (s ++ [c]))) ∨
      BraceLeft flags c (plain (flags.escape s)) (plain (flags.escape (s ++ [c]))) := by
  cases s with
  | nil => exact .inl (.failed (exhausts_plain (Nat.le_refl 1) (flags.escape [c])))
  | cons d t =>
    rw [plain_escape, plain_escape]
    dsimp only [List.cons_append]
    split_ifs
    · exact .inl appended_none
    · exact .inl (numbered_appended flags hc d t)
    · exact .inl (property_appended flags hc _ t)
    · exact .inl (appended_map _ t)
    · exact .inl .left
    · exact boundary_appended flags hc t
    · cases control? d with
      | some x => exact .inl .left
      | none => exact .inl (appended_map _ t)

end Escapes

end JsonQuery.Regex
