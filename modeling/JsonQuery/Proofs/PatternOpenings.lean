import JsonQuery.Proofs.PatternReading

/-!
Counts of repetitions and openings of groups, with a character put after the text.
-/

namespace JsonQuery.Regex

section Openings

variable {c : Char} (flags : Flags)

/-! ### Counts -/

lemma plain_countDigits (s : List Char) :
    some (flags.countDigits s).plain = match s with
      | [] => some ([], [])
      | d :: t =>
        if d.isDigit then
          (some (flags.countDigits (flags.skip t)).plain).map fun p => (d :: p.1, p.2)
        else some ([], d :: t) := by
  cases s with
  | nil =>
    rw [Flags.countDigits]
    rfl
  | cons d t =>
    rw [Flags.countDigits]
    dsimp only
    split_ifs <;> rfl

lemma countDigits_appended (hc : IsCloser c) (s : List Char) :
    Appended c (some (flags.countDigits s).plain) (some (flags.countDigits (s ++ [c])).plain) := by
  have hdigit : c.isDigit = false := by rcases hc with rfl | rfl <;> decide
  rw [plain_countDigits, plain_countDigits]
  cases s with
  | nil =>
    dsimp only [List.nil_append]
    rw [hdigit, if_neg Bool.false_ne_true]
    exact appended_some _ (.inl rfl)
  | cons d t =>
    have hle := flags.length_skip_le t
    dsimp only [List.cons_append]
    split_ifs
    · obtain h | ⟨h, h'⟩ := skip_append flags hc t
      · rw [h]
        exact (countDigits_appended hc (flags.skip t)).map
      · rw [h, h', Flags.countDigits]
        exact .same (exhausts_nil _)
    · exact .left
termination_by s.length

/-- The number that digits stand for, if it fits. -/
def countOfDigits? (digits : List Char) : Option Nat :=
  let n := natOfDigits digits
  if digits.isEmpty ∨ Nat.pow 2 32 ≤ n then none else some n

lemma count?_appended (hc : IsCloser c) (s : List Char) :
    Appended c (some (flags.count? s)) (some (flags.count? (s ++ [c]))) := by
  have hcount : ∀ s, some (flags.count? s) =
      (some (flags.countDigits (skipWhiteSpace s)).plain).bind fun p =>
        some (countOfDigits? p.1, skipWhiteSpace p.2) := fun s => rfl
  rw [hcount, hcount, skipWhiteSpace_append hc]
  refine (countDigits_appended flags hc _).bind (fun a r _ => ?_) fun a => exhausts_nil _
  exact appended_some _ (.inl (skipWhiteSpace_append hc r))

/-- A question mark that makes a repetition lazy is skipped. -/
lemma skipLazy_append (hc : IsCloser c) (s : List Char) :
    skipLazy (s ++ [c]) = skipLazy s ++ [c] := by
  have hlazy : c ≠ '?' := hc.ne (by decide)
  cases s with
  | nil =>
    unfold skipLazy
    split
    · rename_i h
      cases h
      exact absurd rfl hlazy
    · rfl
  | cons d t =>
    unfold skipLazy
    split
    · rename_i h
      cases h
      rfl
    · rename_i hne
      split
      · rename_i h
        cases h
        exact absurd rfl (hne (t ++ [c]))
      · rfl

lemma skipLazy_skip_append (hc : IsCloser c) (s : List Char) :
    skipLazy (flags.skip (s ++ [c])) = skipLazy (flags.skip s) ++ [c] ∨
      skipLazy (flags.skip s) = [] ∧ skipLazy (flags.skip (s ++ [c])) = [] := by
  obtain h | ⟨h, h'⟩ := skip_append flags hc s
  · rw [h, skipLazy_append hc]
    exact .inl rfl
  · rw [h, h']
    exact .inr ⟨rfl, rfl⟩

/-- What follows the greatest count of a repetition. -/
def afterMost (least : Nat) (p : Option Nat × List Char) :
    Option ((Nat × Option Nat) × List Char) :=
  p.1.bind fun most => match p.2 with
    | [] => none
    | d :: t =>
      if d = '\x7d' ∧ least ≤ most then some ((least, some most), skipLazy (flags.skip t))
      else none

/-- What follows the least count of a repetition. -/
def afterLeast (p : Option Nat × List Char) : Option ((Nat × Option Nat) × List Char) :=
  p.1.bind fun least => match p.2 with
    | [] => none
    | d :: t =>
      if d = '\x7d' then some ((least, some least), skipLazy (flags.skip t))
      else if d = ',' then match flags.skip t with
        | [] => none
        | e :: u =>
          if e = '\x7d' then some ((least, none), skipLazy (flags.skip u))
          else afterMost flags least (flags.count? (e :: u))
      else none

lemma count?_nil : (flags.count? []).1 = none := by
  have h : skipWhiteSpace [] = [] := rfl
  rw [Flags.count?, h, Flags.countDigits]
  rfl

lemma plain_counts (s : List Char) :
    plain (flags.counts s) = afterLeast flags (flags.count? (flags.skip s)) := by
  rw [Flags.counts, afterLeast]
  cases hleast : (flags.count? (flags.skip s)).1 with
  | none => rfl
  | some least =>
    dsimp only [bind, Option.bind_some]
    split
    · rename_i t h
      simp only [h, if_true]
      rfl
    · -- after a comma, where the greatest count may be missing
      rename_i t h
      simp only [h]
      rw [if_neg (by decide), if_true]
      split
      · rename_i u h'
        simp only [h', if_true]
        rfl
      · rename_i hne
        have hmost : (match flags.skip t with
            | [] => none
            | e :: u =>
              if e = '\x7d' then some ((least, none), skipLazy (flags.skip u))
              else afterMost flags least (flags.count? (e :: u))) =
            afterMost flags least (flags.count? (flags.skip t)) := by
          rcases hs : flags.skip t with _ | ⟨e, u⟩
          · rw [afterMost, count?_nil]
            rfl
          · have he : e ≠ '\x7d' := ne_of_not_cons hne hs
            exact if_neg he
        rw [hmost, afterMost]
        cases (flags.count? (flags.skip t)).1 with
        | none => rfl
        | some most =>
          dsimp only [Option.bind_some]
          split
          · rename_i u h'
            simp only [h', true_and]
            split_ifs <;> first | rfl | omega
          · rename_i hne'
            rcases h' : (flags.count? (flags.skip t)).2 with _ | ⟨e, u⟩
            · rfl
            · have he : e ≠ '\x7d' := ne_of_not_cons hne' h'
              exact (if_neg fun h => he h.1).symm
    · rename_i hne hne'
      rcases h : (flags.count? (flags.skip s)).2 with _ | ⟨d, t⟩
      · rfl
      · have hd : d ≠ '\x7d' := ne_of_not_cons hne h
        have hd' : d ≠ ',' := ne_of_not_cons hne' h
        dsimp only
        rw [if_neg hd, if_neg hd']
        rfl

lemma afterMost_appended (hc : IsCloser c) (least : Nat) {p q : Option Nat × List Char}
    (h : Appended c (some p) (some q)) :
    Appended c (afterMost flags least p) (afterMost flags least q) := by
  have hbrace : c ≠ '\x7d' := hc.ne (by decide)
  refine h.bind (f := afterMost flags least) (fun most r _ => ?_) fun most => ?_
  · cases most with
    | none => exact appended_none
    | some most =>
      cases r with
      | nil =>
        dsimp only [afterMost, Option.bind_some, List.nil_append]
        rw [if_neg fun h => hbrace h.1]
        exact appended_none
      | cons d t =>
        dsimp only [afterMost, Option.bind_some, List.cons_append]
        split_ifs
        · exact appended_some _ (skipLazy_skip_append flags hc t)
        · exact appended_none
  · cases most <;> exact exhausts_none

lemma afterLeast_appended (hc : IsCloser c) {p q : Option Nat × List Char}
    (h : Appended c (some p) (some q)) :
    Appended c (afterLeast flags p) (afterLeast flags q) := by
  have hbrace : c ≠ '\x7d' := hc.ne (by decide)
  have hcomma : c ≠ ',' := hc.ne (by decide)
  refine h.bind (f := afterLeast flags) (fun least r _ => ?_) fun least => ?_
  · cases least with
    | none => exact appended_none
    | some least =>
      cases r with
      | nil =>
        dsimp only [afterLeast, Option.bind_some, List.nil_append]
        rw [if_neg hbrace, if_neg hcomma]
        exact appended_none
      | cons d t =>
        dsimp only [afterLeast, Option.bind_some, List.cons_append]
        split_ifs
        · exact appended_some _ (skipLazy_skip_append flags hc t)
        · obtain ⟨e, u, hs, hs'⟩ | ⟨hs, hs' | hs'⟩ := skip_append_cases flags hc t
          · rw [hs, hs']
            dsimp only
            split_ifs
            · exact appended_some _ (skipLazy_skip_append flags hc u)
            · exact afterMost_appended flags hc least (count?_appended flags hc (e :: u))
          · have hnone : afterMost flags least (flags.count? []) = none := by
              rw [afterMost, count?_nil]
              rfl
            rw [hs, hs']
            dsimp only
            rw [if_neg hbrace, ← hnone]
            exact afterMost_appended flags hc least (count?_appended flags hc [])
          · rw [hs, hs']
            exact appended_none
        · exact appended_none
  · cases least <;> exact exhausts_none

lemma counts_appended (hc : IsCloser c) (s : List Char) :
    Appended c (plain (flags.counts s)) (plain (flags.counts (s ++ [c]))) := by
  rw [plain_counts, plain_counts]
  refine afterLeast_appended flags hc ?_
  obtain h | ⟨h, h'⟩ := skip_append flags hc s
  · rw [h]
    exact count?_appended flags hc _
  · have hnil : (flags.count? []).2 = [] :=
      List.eq_nil_of_length_eq_zero (Nat.le_zero.1 (flags.length_count?_le []))
    have hexhausts : Exhausts (some (flags.count? [])) := fun _ _ h => by
      cases h
      exact hnil
    rw [h, h']
    exact .same hexhausts

/-! ### Openings -/

lemma plain_settings (seen : List Char) (on : Bool) (s : List Char) :
    plain (flags.settings seen on s) = match s with
      | [] => none
      | d :: t =>
        if d = ':' ∨ d = ')' then
          if seen.head? = some '-' then none
          else if d = ':' then some (.group false flags none, t)
          else if seen.isEmpty then none
          else some (.setting flags, t)
        else if seen.contains d then none
        else if d = '-' then plain (flags.settings (d :: seen) false t)
        else (flags.set? d on).bind fun flags => plain (flags.settings (d :: seen) on t) := by
  cases s with
  | nil => rfl
  | cons d t =>
    rw [Flags.settings]
    dsimp only
    split_ifs
    · rfl
    · rfl
    · rfl
    · rfl
    · rfl
    · exact plain_map_widen fun p => rfl
    · cases flags.set? d on with
      | none => rfl
      | some flags => exact plain_widen fun p => rfl

lemma settings_appended (seen : List Char) (on : Bool) (s : List Char) :
    Appended c (plain (flags.settings seen on s)) (plain (flags.settings seen on (s ++ [c]))) := by
  induction s generalizing flags seen on with
  | nil => exact .failed (exhausts_plain (Nat.le_refl 1) (flags.settings seen on [c]))
  | cons d t ih =>
    rw [plain_settings, plain_settings]
    dsimp only [List.cons_append]
    split_ifs
    · exact appended_none
    · exact .left
    · exact appended_none
    · exact .left
    · exact appended_none
    · exact ih _ _ _
    · cases flags.set? d on with
      | none => exact appended_none
      | some flags => exact ih flags _ _

lemma plain_groupName (s : List Char) :
    plain (flags.groupName s) = match s.dropWhile (· != '>') with
      | [] => none
      | _ :: t =>
        if isGroupName (s.takeWhile (· != '>')) then
          some (.group true flags (some (s.takeWhile (· != '>'))), t)
        else none := by
  rw [Flags.groupName]
  split
  · rename_i t hs
    simp only [hs]
    split_ifs <;> rfl
  · rename_i hne
    rcases hs : s.dropWhile (· != '>') with _ | ⟨d, t⟩
    · rfl
    · have hd : d = '>' := eq_of_dropWhile_eq_cons hs
      subst hd
      exact absurd hs (hne t)

lemma groupName_appended (hc : IsCloser c) (s : List Char) :
    Appended c (plain (flags.groupName s)) (plain (flags.groupName (s ++ [c]))) := by
  have hclose : (c != '>') = true := by rcases hc with rfl | rfl <;> decide
  rw [plain_groupName, plain_groupName]
  obtain ⟨d, t, h, h', htake⟩ | ⟨h, h'⟩ := split_append (· != '>') hclose s
  · rw [h, h', htake]
    dsimp only
    split_ifs
    · exact .left
    · exact appended_none
  · rw [h, h']
    exact appended_none

lemma plain_opening (s : List Char) :
    plain (flags.opening s) = match s with
      | [] => some (.group true flags none, [])
      | d :: t =>
        if d = '?' then match t with
          | [] => none
          | e :: u =>
            if e = '=' ∨ e = '!' then none
            else if e = '<' then
              if u.head? = some '=' ∨ u.head? = some '!' then none else plain (flags.groupName u)
            else if e = 'P' ∧ u.head? = some '<' then plain (flags.groupName (u.drop 1))
            else plain (flags.settings [] true (e :: u))
        else some (.group true flags none, d :: t) := by
  rw [Flags.opening.eq_def]
  split
  · rfl
  · rfl
  · rfl
  · rfl
  · exact plain_map_widen fun p => rfl
  · -- a name between angle brackets
    rename_i t heq hnot
    have hhead : ¬(t.head? = some '=' ∨ t.head? = some '!') := by
      rw [List.head?_eq_some_iff, List.head?_eq_some_iff]
      rintro (⟨u, hu⟩ | ⟨u, hu⟩)
      · exact heq u hu
      · exact hnot u hu
    dsimp only
    rw [if_pos rfl, if_neg (by decide), if_pos rfl, if_neg hhead]
    exact plain_map_widen fun p => rfl
  · -- flags
    rename_i t heq hnot _ _ hname hangle
    cases t with
    | nil => rfl
    | cons e u =>
      have he : ¬(e = '=' ∨ e = '!') := by
        rintro (rfl | rfl)
        · exact heq u rfl
        · exact hnot u rfl
      have hangle' : e ≠ '<' := ne_of_not_cons hangle rfl
      have hname' : ¬(e = 'P' ∧ u.head? = some '<') := by
        rintro ⟨rfl, hu⟩
        obtain ⟨v, rfl⟩ := List.head?_eq_some_iff.1 hu
        exact hname v rfl
      dsimp only
      rw [if_pos rfl, if_neg he, if_neg hangle', if_neg hname']
      exact plain_map_widen fun p => rfl
  · -- a numbered group
    rename_i hne
    cases s with
    | nil => rfl
    | cons d t =>
      have hd : d ≠ '?' := ne_of_not_cons hne rfl
      exact (if_neg hd).symm

lemma opening_appended (hc : IsCloser c) (s : List Char) :
    Appended c (plain (flags.opening s)) (plain (flags.opening (s ++ [c]))) := by
  have hquestion : c ≠ '?' := hc.ne (by decide)
  have hlook : ¬(c = '=' ∨ c = '!') := by rcases hc with rfl | rfl <;> decide
  have hangle : c ≠ '<' := hc.ne (by decide)
  rw [plain_opening, plain_opening]
  -- three characters tell how the group opens
  rcases s with _ | ⟨d, _ | ⟨e, _ | ⟨f, u⟩⟩⟩
  · dsimp only [List.nil_append]
    rw [if_neg hquestion]
    exact .left
  · dsimp only [List.cons_append, List.nil_append, List.head?_nil]
    rw [if_neg hlook, if_neg hangle]
    split_ifs
    · simp_all
    · exact settings_appended flags [] true []
    · exact .left
  · dsimp only [List.cons_append, List.nil_append, List.head?_cons, List.head?_nil]
    simp only [Option.some.injEq, hlook, hangle, reduceCtorEq, or_self, and_false, if_false]
    split_ifs
    · exact appended_none
    · exact groupName_appended flags hc []
    · exact settings_appended flags [] true [e]
    · exact .left
  · dsimp only [List.cons_append, List.head?_cons]
    simp only [Option.some.injEq]
    split_ifs
    · exact appended_none
    · exact appended_none
    · exact groupName_appended flags hc (f :: u)
    · exact groupName_appended flags hc u
    · exact settings_appended flags [] true (e :: f :: u)
    · exact .left

end Openings

end JsonQuery.Regex
