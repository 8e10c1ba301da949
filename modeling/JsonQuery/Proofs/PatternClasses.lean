import JsonQuery.Proofs.PatternEscapes

/-!
Sets between brackets, with a character put after the text. A bracket that is closed is read
the same way; one that is open at the end is not a set in either text.
-/

namespace JsonQuery.Regex

section Classes

variable {c : Char} (flags : Flags)

/-! ### Opening brackets -/

lemma classMark_eq (s : List Char) : flags.classMark s = match flags.skip s with
    | [] => (false, [])
    | d :: t => if d = '^' then (true, t) else (false, d :: t) := by
  rw [Flags.classMark]
  rcases flags.skip s with _ | ⟨d, t⟩
  · rfl
  · dsimp only
    split_ifs with hd
    · subst hd
      rfl
    · split
      · rename_i h
        cases h
        exact absurd rfl hd
      · rfl

lemma classMark_appended (hc : IsCloser c) (s : List Char) :
    Appended c (some (flags.classMark s)) (some (flags.classMark (s ++ [c]))) := by
  have hmark : c ≠ '^' := hc.ne (by decide)
  rw [classMark_eq, classMark_eq]
  obtain ⟨d, t, hs, hs'⟩ | ⟨hs, hs' | hs'⟩ := skip_append_cases flags hc s
  · rw [hs, hs']
    dsimp only
    split_ifs
    · exact .left
    · exact .left
  · rw [hs, hs']
    dsimp only
    rw [if_neg hmark]
    exact .left
  · rw [hs, hs']
    exact .same (exhausts_nil _)

lemma leadingHyphens_eq (s : List Char) : flags.leadingHyphens s = match flags.skip s with
    | [] => ({}, [])
    | d :: t =>
      if d = '-' then
        ((flags.leadingHyphens t).1.add ⟨[(0x2D, 0x2D)], 0⟩, (flags.leadingHyphens t).2)
      else ({}, d :: t) := by
  rw [Flags.leadingHyphens]
  split
  · rename_i t hs
    simp only [hs, if_true]
  · rename_i hne
    rcases hs : flags.skip s with _ | ⟨d, t⟩
    · rfl
    · have hd : d ≠ '-' := ne_of_not_cons hne hs
      exact (if_neg hd).symm

lemma leadingHyphens_appended (hc : IsCloser c) (s : List Char) :
    Appended c (some (flags.leadingHyphens s)) (some (flags.leadingHyphens (s ++ [c]))) := by
  have hhyphen : c ≠ '-' := hc.ne (by decide)
  rw [leadingHyphens_eq, leadingHyphens_eq]
  obtain ⟨d, t, hs, hs'⟩ | ⟨hs, hs' | hs'⟩ := skip_append_cases flags hc s
  · have hlt : t.length < s.length := Flags.length_le_of_skip hs
    rw [hs, hs']
    dsimp only
    split_ifs
    · exact (leadingHyphens_appended hc t).map
        (f := fun opened => opened.add ⟨[(0x2D, 0x2D)], 0⟩)
    · exact .left
  · rw [hs, hs']
    dsimp only
    rw [if_neg hhyphen]
    exact .left
  · rw [hs, hs']
    exact .same (exhausts_nil _)
termination_by s.length

/-- A closing bracket that stands for itself is the first entry. -/
def firstEntry (negated : Bool) (p : OpenClass × List Char) : (Bool × OpenClass) × List Char :=
  match p.2 with
  | [] => ((negated, p.1), [])
  | d :: t =>
    if d = ']' ∧ p.1.entries = 0 then ((negated, p.1.add ⟨[(0x5D, 0x5D)], 0⟩), t)
    else ((negated, p.1), d :: t)

lemma plain_openClass (s : List Char) : (flags.openClass s).plain =
    firstEntry (flags.classMark s).1 (flags.leadingHyphens (flags.classMark s).2) := by
  rw [Flags.openClass, firstEntry]
  split
  · rename_i opened rest h
    simp only [h]
    split_ifs <;> simp_all [Parsed.plain]
  · rename_i opened rest hne h
    simp only [h]
    cases rest with
    | nil => rfl
    | cons d t =>
      have hd : d ≠ ']' := ne_of_not_cons hne rfl
      exact (if_neg fun h => hd h.1).symm

lemma openClass_appended (hc : IsCloser c) (s : List Char) :
    Appended c (some (flags.openClass s).plain) (some (flags.openClass (s ++ [c])).plain) := by
  have hbracket : c ≠ ']' := hc.ne (by decide)
  have hopen : ∀ s, some (flags.openClass s).plain =
      (some (flags.classMark s)).bind fun mark =>
        (some (flags.leadingHyphens mark.2)).bind fun p => some (firstEntry mark.1 p) :=
    fun s => congrArg some (plain_openClass flags s)
  have hfirst : ∀ negated opened, firstEntry negated (opened, []) = ((negated, opened), []) :=
    fun _ _ => rfl
  have hnil : flags.leadingHyphens [] = ({}, []) := by
    rw [leadingHyphens_eq, skip_nil]
  rw [hopen, hopen]
  refine (classMark_appended flags hc s).bind (fun negated r _ => ?_) fun negated => ?_
  · refine (leadingHyphens_appended flags hc r).bind (fun opened u _ => ?_) fun opened => ?_
    · cases u with
      | nil =>
        dsimp only [firstEntry, List.nil_append]
        rw [if_neg fun h => hbracket h.1]
        exact .left
      | cons d t =>
        dsimp only [firstEntry, List.cons_append]
        split_ifs
        · exact .left
        · exact .left
    · exact exhausts_nil _
  · rw [hnil]
    exact exhausts_nil _

/-! ### Named classes -/

/-- The class of that name, if there is one and it is closed by a bracket. -/
def closeNamed (flags : Flags) (negated : Bool) (name : List Char) :
    List Char → Option (Option NestedSet × List Char)
  | _ :: e :: rest =>
    if e = ']' then
      (asciiClass? name).map fun set => ((flags.foldAndNegate negated set).map (⟨·, 0⟩), rest)
    else none
  | _ => none

/-- A class by name, after the mark of negation. -/
def namedBody (flags : Flags) (negated : Bool) (s : List Char) :
    Option (Option NestedSet × List Char) :=
  closeNamed flags negated (s.takeWhile (· != ':')) (s.dropWhile (· != ':'))

lemma plain_namedClass (s : List Char) : plain (flags.namedClass s) = match s with
    | [] => none
    | d :: t =>
      if d = ':' then
        if t.head? = some '^' then namedBody flags true (t.drop 1) else namedBody flags false t
      else none := by
  rw [Flags.namedClass.eq_def]
  split
  · rename_i t
    have hbody : (if t.head? = some '^' then namedBody flags true (t.drop 1)
        else namedBody flags false t) = namedBody flags (t.head? == some '^')
          (if (t.head? == some '^') = true then t.drop 1 else t) := by
      by_cases h : t.head? = some '^'
      · simp [h]
      · have hne : (t.head? == some '^') = false := beq_eq_false_iff_ne.2 h
        rw [hne, if_neg h, if_neg Bool.false_ne_true]
    dsimp only
    rw [if_pos rfl, hbody, namedBody, closeNamed.eq_def]
    split
    · rename_i rest h
      simp only [h, if_true]
      cases asciiClass? _ <;> rfl
    · rename_i hne
      split
      · rename_i d e rest hs
        have hd : d = ':' := eq_of_dropWhile_eq_cons hs
        subst hd
        rw [if_neg]
        · rfl
        · rintro rfl
          exact hne rest hs
      · rfl
  · rename_i hne
    cases s with
    | nil => rfl
    | cons d t =>
      have hd : d ≠ ':' := ne_of_not_cons hne rfl
      exact (if_neg hd).symm

lemma namedBody_append (hc : IsCloser c) (negated : Bool) (s : List Char) :
    namedBody flags negated (s ++ [c]) =
      (namedBody flags negated s).map fun p => (p.1, p.2 ++ [c]) := by
  have hbracket : c ≠ ']' := hc.ne (by decide)
  have hcolon : (c != ':') = true := by rcases hc with rfl | rfl <;> decide
  rw [namedBody, namedBody]
  obtain ⟨d, t, h, h', htake⟩ | ⟨h, h'⟩ := split_append (· != ':') hcolon s
  · rw [h, h', htake]
    cases t with
    | nil => exact if_neg hbracket
    | cons e u =>
      dsimp only [List.cons_append, closeNamed]
      split_ifs
      · cases asciiClass? _ <;> rfl
      · rfl
  · rw [h, h']
    rfl

/-- Whether brackets hold the name of a class does not depend on what is put after the text. -/
lemma plain_namedClass_append (hc : IsCloser c) (s : List Char) :
    plain (flags.namedClass (s ++ [c])) =
      (plain (flags.namedClass s)).map fun p => (p.1, p.2 ++ [c]) := by
  have hcolon : c ≠ ':' := hc.ne (by decide)
  have hnegation : c ≠ '^' := hc.ne (by decide)
  rw [plain_namedClass, plain_namedClass]
  rcases s with _ | ⟨d, _ | ⟨e, u⟩⟩
  · exact if_neg hcolon
  · dsimp only [List.cons_append, List.nil_append, List.head?_cons, List.head?_nil]
    simp only [Option.some.injEq, hnegation, reduceCtorEq, if_false]
    split_ifs
    · exact namedBody_append flags hc false []
    · rfl
  · dsimp only [List.cons_append, List.head?_cons]
    simp only [Option.some.injEq]
    split_ifs
    · exact namedBody_append flags hc true u
    · exact namedBody_append flags hc false (e :: u)
    · rfl

/-! ### Entries -/

lemma plain_classAtom (s : List Char) : plain (flags.classAtom s) = match s with
    | [] => none
    | d :: t => if d = '\\' then plain (flags.escape t) else some (.literal d false, t) := by
  rw [Flags.classAtom.eq_def]
  split
  · rfl
  · exact plain_map_widen fun p => rfl
  · rename_i d t hne
    have hd : d ≠ '\\' := hne
    exact (if_neg hd).symm

lemma classAtom_appended (hc : IsCloser c) (s : List Char) :
    Appended c (plain (flags.classAtom s)) (plain (flags.classAtom (s ++ [c]))) ∨
      BraceLeft flags c (plain (flags.classAtom s)) (plain (flags.classAtom (s ++ [c]))) := by
  cases s with
  | nil => exact .inl (.failed (exhausts_plain (Nat.le_refl 1) (flags.classAtom [c])))
  | cons d t =>
    rw [plain_classAtom, plain_classAtom]
    dsimp only [List.cons_append]
    split_ifs
    · exact escape_appended flags hc t
    · exact .inl .left

/-- What an entry is, by what follows its first part. -/
def afterAtom (flags : Flags) (p : Atom × List Char) : Option (Unicode.Ranges × List Char) :=
  match flags.skip p.2 with
  | [] => none
  | d :: t =>
    if d = '-' then match flags.skip t with
      | [] => none
      | e :: u =>
        if e = ']' ∨ e = '-' then (flags.atomSet p.1).map (·, d :: t)
        else recast (flags.atomRange p.1) (plain (flags.classAtom (e :: u)))
    else (flags.atomSet p.1).map (·, d :: t)

lemma plain_classRange (s : List Char) :
    plain (flags.classRange s) = (plain (flags.classAtom s)).bind (afterAtom flags) := by
  rw [Flags.classRange]
  refine plain_bind fun first => ?_
  rw [afterAtom]
  dsimp only [Parsed.plain]
  split
  · rename_i hs
    rw [hs]
    rfl
  · rename_i t hs
    simp only [hs, if_true]
    split
    · rename_i u hu
      simp only [hu, true_or, if_true]
      cases flags.atomSet first.value <;> rfl
    · rename_i u hu
      simp only [hu, or_true, if_true]
      cases flags.atomSet first.value <;> rfl
    · -- a range
      rename_i hclose hhyphen
      have hlast : (match flags.skip t with
          | [] => none
          | e :: u =>
            if e = ']' ∨ e = '-' then (flags.atomSet first.value).map (·, '-' :: t)
            else recast (flags.atomRange first.value) (plain (flags.classAtom (e :: u)))) =
          recast (flags.atomRange first.value) (plain (flags.classAtom (flags.skip t))) := by
        rcases hs : flags.skip t with _ | ⟨e, u⟩
        · rfl
        · refine if_neg ?_
          rintro (rfl | rfl)
          · exact hclose u hs
          · exact hhyphen u hs
      rw [hlast]
      refine plain_recast fun last => ?_
      cases flags.atomRange first.value last.value <;> rfl
  · rename_i d t hne hs
    have hd : d ≠ '-' := hne
    simp only [hs, if_neg hd]
    cases flags.atomSet first.value <;> rfl

lemma bind_afterAtom_of_exhausts {x : Option (Atom × List Char)} (h : Exhausts x) :
    x.bind (afterAtom flags) = none := by
  cases x with
  | none => rfl
  | some p =>
    rw [Option.bind_some, afterAtom, h p.1 p.2 rfl, skip_nil]

/-- The second character of a range. -/
lemma lastAtom_appended (hc : IsCloser c) (first : Atom) (s : List Char) :
    Appended c (recast (flags.atomRange first) (plain (flags.classAtom s)))
      (recast (flags.atomRange first) (plain (flags.classAtom (s ++ [c])))) := by
  obtain h | ⟨hx, condition, t, -, hy⟩ := classAtom_appended flags hc s
  · exact h.recast _
  · have hrange : flags.atomRange first (.look condition) = none := by cases first <;> rfl
    rw [hx, hy, recast, recast, Option.bind_none, Option.bind_some, hrange]
    exact appended_none

/-- At the end of a text an entry is refused; a further character is left over at most. -/
lemma afterAtom_appended (hc : IsCloser c) (a : Atom) (r : List Char) :
    Appended c (afterAtom flags (a, r)) (afterAtom flags (a, r ++ [c])) ∨
      afterAtom flags (a, r) = none ∧ ∃ set, afterAtom flags (a, r ++ [c]) = some (set, [c]) := by
  have hhyphen : c ≠ '-' := hc.ne (by decide)
  have hclose : ¬(c = ']' ∨ c = '-') := by rcases hc with rfl | rfl <;> decide
  dsimp only [afterAtom]
  obtain ⟨d, t, hs, hs'⟩ | ⟨hs, hs' | hs'⟩ := skip_append_cases flags hc r
  · rw [hs, hs']
    dsimp only
    split_ifs
    · obtain ⟨e, u, ht, ht'⟩ | ⟨ht, ht' | ht'⟩ := skip_append_cases flags hc t
      · rw [ht, ht']
        dsimp only
        split_ifs
        · exact .inl (appended_map _ (d :: t))
        · exact .inl (lastAtom_appended flags hc a (e :: u))
      · rw [ht, ht']
        dsimp only
        rw [if_neg hclose]
        exact .inl (.failed ((exhausts_plain (Nat.le_refl 1) (flags.classAtom [c])).recast _))
      · rw [ht, ht']
        exact .inl appended_none
    · exact .inl (appended_map _ (d :: t))
  · rw [hs, hs']
    dsimp only
    rw [if_neg hhyphen]
    cases flags.atomSet a with
    | none => exact .inl appended_none
    | some set => exact .inr ⟨rfl, set, rfl⟩
  · rw [hs, hs']
    exact .inl appended_none

lemma classRange_appended (hc : IsCloser c) (s : List Char) :
    Appended c (plain (flags.classRange s)) (plain (flags.classRange (s ++ [c]))) ∨
      plain (flags.classRange s) = none ∧
        ∃ set, plain (flags.classRange (s ++ [c])) = some (set, [c]) := by
  rw [plain_classRange, plain_classRange]
  obtain (⟨a, r, hx, hy⟩ | ⟨hx, hy, -⟩) | ⟨hx, condition, t, -, hy⟩ := classAtom_appended flags hc s
  · rw [hx, hy]
    exact afterAtom_appended flags hc a r
  · rw [bind_afterAtom_of_exhausts flags hx, bind_afterAtom_of_exhausts flags hy]
    exact .inl appended_none
  · have hlook : afterAtom flags (.look condition, '\x7b' :: (t ++ [c])) = none := by
      rw [afterAtom, skip_brace]
      rfl
    rw [hx, hy, Option.bind_none, Option.bind_some, hlook]
    exact .inl appended_none

/-! ### Bodies -/

/-- The operator between sets that two characters in a row stand for. -/
def setOperator? (d : Char) (next : Option Char) : Option SetOperator :=
  if next = some d then
    if d = '&' then some .intersection
    else if d = '-' then some .difference
    else if d = '~' then some .symmetricDifference
    else none
  else none

/-- The set between brackets, once they are closed. -/
def closeBracket (flags : Flags) (negated : Bool) (inner : NestedSet) : Option NestedSet :=
  (flags.foldAndNegate negated inner.set).map (⟨·, inner.depth + 1⟩)

lemma plain_bracketed (s : List Char) :
    plain (flags.bracketed s) = recast (closeBracket flags (flags.openClass s).value.1)
      (plain (flags.classBody (flags.openClass s).value.2 (flags.openClass s).rest)) := by
  rw [Flags.bracketed]
  refine plain_recast fun inner => ?_
  rw [closeBracket]
  cases flags.foldAndNegate (flags.openClass s).value.1 inner.value.set <;> rfl

lemma plain_classBody (opened : OpenClass) (s : List Char) :
    plain (flags.classBody opened s) = match flags.skip s with
      | [] => none
      | d :: t =>
        if d = ']' then some (opened.close flags, t)
        else match setOperator? d t.head? with
          | some op => plain (flags.classBody (opened.operate flags op) (t.drop 1))
          | none =>
            if d = '[' then match plain (flags.namedClass t) with
              | some (named, r) =>
                named.bind fun entry => plain (flags.classBody (opened.add entry) r)
              | none => (plain (flags.bracketed t)).bind fun entry =>
                plain (flags.classBody (opened.add entry.1) entry.2)
            else (plain (flags.classRange (d :: t))).bind fun entry =>
              plain (flags.classBody (opened.add ⟨entry.1, 0⟩) entry.2) := by
  rw [Flags.classBody]
  split
  · rename_i hs
    rw [hs]
    rfl
  · rename_i t hs
    simp only [hs, if_true]
    rfl
  · -- the operators
    rename_i t hs
    simp only [hs]
    exact plain_widen fun p => rfl
  · rename_i t hs
    simp only [hs]
    exact plain_widen fun p => rfl
  · rename_i t hs
    simp only [hs]
    exact plain_widen fun p => rfl
  · -- a bracket: a class by its name, or a set within the set
    rename_i t hs
    have hop : setOperator? '[' t.head? = none := by
      rw [setOperator?]
      split_ifs <;> first | rfl | contradiction
    simp only [hs, hop]
    rw [if_neg (by decide), if_true]
    cases flags.namedClass t with
    | some named =>
      dsimp only [plain_some, Parsed.plain]
      cases named.value with
      | none => rfl
      | some entry => exact plain_widen fun p => rfl
    | none =>
      dsimp only [plain_none]
      rw [plain_bracketed, recast, Option.bind_assoc]
      refine plain_bind fun inner => ?_
      dsimp only [Parsed.plain, closeBracket]
      cases flags.foldAndNegate (flags.openClass t).value.1 inner.value.set with
      | none => rfl
      | some set => exact plain_widen fun p => rfl
  · -- an entry or a range, which no operator begins
    rename_i d t hclose hinter hdiff hsymm hopen hs
    have hop : setOperator? d t.head? = none := by
      rw [setOperator?]
      split_ifs with hnext hd hd hd
      · obtain ⟨u, rfl⟩ := List.head?_eq_some_iff.1 hnext
        exact (hinter u hd (by rw [hd])).elim
      · obtain ⟨u, rfl⟩ := List.head?_eq_some_iff.1 hnext
        exact (hdiff u hd (by rw [hd])).elim
      · obtain ⟨u, rfl⟩ := List.head?_eq_some_iff.1 hnext
        exact (hsymm u hd (by rw [hd])).elim
      · rfl
      · rfl
    simp only [hs, hop]
    rw [if_neg hclose, if_neg hopen]
    exact plain_bind fun entry => plain_widen fun p => rfl

lemma classBody_nil (opened : OpenClass) : plain (flags.classBody opened []) = none := by
  rw [plain_classBody, skip_nil]

/-- The character put after a text makes no operator. -/
lemma setOperator?_append (hc : IsCloser c) (d : Char) (t : List Char) :
    setOperator? d (t ++ [c]).head? = setOperator? d t.head? := by
  cases t with
  | cons e u => rfl
  | nil =>
    dsimp only [List.nil_append, List.head?_cons, List.head?_nil, setOperator?]
    rw [if_neg (nofun : none ≠ some d)]
    by_cases h : c = d
    · subst h
      rw [if_pos rfl, if_neg (hc.ne (by decide)), if_neg (hc.ne (by decide)),
        if_neg (hc.ne (by decide))]
    · exact if_neg fun hsome => h (Option.some.inj hsome)

/-- What stands next decides how a bracket goes on. -/
lemma exhausts_classBody_of_skip (hc : IsCloser c) (opened : OpenClass) {s : List Char}
    (hs : flags.skip s = [c]) : Exhausts (plain (flags.classBody opened s)) := by
  have h : plain (flags.classBody opened s) = plain (flags.classBody opened [c]) := by
    rw [plain_classBody, plain_classBody, hs, skip_singleton flags hc]
  rw [h]
  exact exhausts_plain (Nat.le_refl 1) _

/-- A set between brackets, if its body is read the same way. -/
lemma bracketed_appended_of (hc : IsCloser c) {s : List Char}
    (hbody : ∀ opened (u : List Char), u.length ≤ s.length →
      Appended c (plain (flags.classBody opened u)) (plain (flags.classBody opened (u ++ [c])))) :
    Appended c (plain (flags.bracketed s)) (plain (flags.bracketed (s ++ [c]))) := by
  rw [plain_bracketed, plain_bracketed]
  have hlen := (flags.openClass s).fits
  obtain ⟨⟨negated, opened⟩, r, hx, hy⟩ | ⟨hx, hy, -⟩ := openClass_appended flags hc s
  · obtain ⟨hvalue, hrest⟩ := Prod.mk.inj (Option.some.inj hx)
    obtain ⟨hvalue', hrest'⟩ := Prod.mk.inj (Option.some.inj hy)
    rw [hrest] at hlen
    rw [hvalue, hvalue', hrest, hrest']
    exact (hbody opened r (Nat.le_of_lt_succ hlen)).recast _
  · rw [hx _ _ rfl, hy _ _ rfl, classBody_nil, classBody_nil]
    exact appended_none

lemma classBody_appended (hc : IsCloser c) (opened : OpenClass) (s : List Char) :
    Appended c (plain (flags.classBody opened s)) (plain (flags.classBody opened (s ++ [c]))) := by
  obtain ⟨d, t, hs, hs'⟩ | ⟨hs, hs'⟩ := skip_append_cases flags hc s
  · have hlt : t.length < s.length := Flags.length_le_of_skip hs
    rw [plain_classBody, plain_classBody, hs, hs']
    dsimp only
    by_cases hclose : d = ']'
    · rw [if_pos hclose, if_pos hclose]
      exact .left
    rw [if_neg hclose, if_neg hclose, setOperator?_append hc]
    cases hop : setOperator? d t.head? with
    | some op =>
      cases t with
      | nil => cases hop
      | cons e u =>
        have : u.length < s.length := by simp only [List.length_cons] at hlt; omega
        exact classBody_appended hc _ u
    | none =>
      dsimp only
      split_ifs with hopen
      · -- a bracket
        rw [plain_namedClass_append flags hc]
        cases hnamed : plain (flags.namedClass t) with
        | some p =>
          obtain ⟨named, r⟩ := p
          have := length_lt_of_plain hnamed
          cases named with
          | none => exact appended_none
          | some entry => exact classBody_appended hc _ r
        | none =>
          refine (bracketed_appended_of flags hc fun opened u hu => ?_).bind
            (fun entry r hr => ?_) fun entry => ?_
          · exact classBody_appended hc opened u
          · have : r.length < t.length := length_lt_of_plain hr
            exact classBody_appended hc _ r
          · dsimp only
            rw [classBody_nil]
            exact exhausts_none
      · -- an entry or a range, which may run into the end
        obtain h | ⟨hx, set, hy⟩ := classRange_appended flags hc (d :: t)
        · refine h.bind (fun entry r hr => ?_) fun entry => ?_
          · have : r.length < t.length + 1 := length_lt_of_plain hr
            exact classBody_appended hc _ r
          · dsimp only
            rw [classBody_nil]
            exact exhausts_none
        · rw [List.cons_append] at hy
          rw [hx, hy]
          exact .failed (exhausts_plain (Nat.le_refl 1) (flags.classBody _ [c]))
  · -- the text ends within the brackets
    have hx : plain (flags.classBody opened s) = none := by rw [plain_classBody, hs]
    rw [hx]
    refine .failed ?_
    rcases hs' with hs' | hs'
    · exact exhausts_classBody_of_skip flags hc opened hs'
    · have hy : plain (flags.classBody opened (s ++ [c])) = none := by rw [plain_classBody, hs']
      exact hy ▸ exhausts_none
termination_by s.length

lemma bracketed_appended (hc : IsCloser c) (s : List Char) :
    Appended c (plain (flags.bracketed s)) (plain (flags.bracketed (s ++ [c]))) :=
  bracketed_appended_of flags hc fun opened u _ => classBody_appended flags hc opened u

end Classes

end JsonQuery.Regex
