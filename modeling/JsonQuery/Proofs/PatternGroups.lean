import JsonQuery.Proofs.PatternClasses
import JsonQuery.Proofs.PatternOpenings
import JsonQuery.Proofs.Places

/-!
Groups of a pattern, with a character put after the text. The whole of a pattern is read as the
body of a group is: up to a closing parenthesis or to the end. A parenthesis put after it is
left over, unless a comment is open there.

All expressions that are read are proper: no repetition requires more rounds than it admits.
-/

namespace JsonQuery.Regex

section Groups

variable {c : Char} (flags : Flags)

/-! ### Constructs of one character -/

/-- The expression of an escape. -/
def escapedItem (flags : Flags) : Atom → Option Item
  | .literal c byte =>
    if byte && !flags.unicode && 0x80 ≤ c.toNat then none
    else some ⟨.char (flags.literal c), 0, false⟩
  | .set set => some ⟨.char set, 0, false⟩
  | .look condition => some ⟨.look condition, 0, false⟩

/-- The expression of a character that is not escaped. -/
def characterItem (flags : Flags) (c : Char) : Option Item :=
  if c = '.' then flags.dot.map (⟨.char ·, 0, false⟩)
  else if c = '^' then some ⟨.look flags.lineStart, 0, false⟩
  else if c = '$' then some ⟨.look flags.lineEnd, 0, false⟩
  else some ⟨.char (flags.literal c), 0, false⟩

lemma plain_primitive (s : List Char) : plain (flags.primitive s) = match s with
    | [] => none
    | d :: t =>
      if d = '\\' then recast (escapedItem flags) (plain (flags.escape t))
      else (characterItem flags d).map (·, t) := by
  rw [Flags.primitive.eq_def]
  split
  · rfl
  · refine plain_recast fun atom => ?_
    cases atom.value with
    | literal d byte =>
      dsimp only [escapedItem]
      split_ifs <;> rfl
    | set set => rfl
    | look condition => rfl
  · dsimp only
    rw [if_neg (by decide), characterItem, if_pos rfl]
    cases flags.dot <;> rfl
  · rfl
  · rfl
  · rename_i d t hescape hdot hstart hend
    have hescape' : d ≠ '\\' := hescape
    have hdot' : d ≠ '.' := hdot
    have hstart' : d ≠ '^' := hstart
    have hend' : d ≠ '$' := hend
    dsimp only
    rw [if_neg hescape', characterItem, if_neg hdot', if_neg hstart', if_neg hend']
    rfl

lemma primitive_appended (hc : IsCloser c) (d : Char) (t : List Char) :
    Appended c (plain (flags.primitive (d :: t))) (plain (flags.primitive (d :: (t ++ [c])))) ∨
      plain (flags.primitive (d :: t)) = none ∧ ∃ item u, flags.skip u = [] ∧
        plain (flags.primitive (d :: (t ++ [c]))) = some (item, '\x7b' :: (u ++ [c])) := by
  rw [plain_primitive, plain_primitive]
  dsimp only
  split_ifs
  · obtain h | ⟨hx, condition, u, hu, hy⟩ := escape_appended flags hc t
    · exact .inl (h.recast _)
    · exact .inr ⟨by rw [hx]; rfl, _, u, hu, by rw [hy]; rfl⟩
  · exact .inl (appended_map _ t)

/-! ### Groups -/

/-- The least and the greatest count of a repetition of one character. -/
def repetition? (c : Char) : Option (Nat × Option Nat) :=
  if c = '?' then some (0, some 1)
  else if c = '*' then some (0, none)
  else if c = '+' then some (1, none)
  else none

/-- What follows an opening parenthesis: the rest of the group, or the group within it and then
the rest. -/
def afterOpening (flags : Flags) (names : List (List Char)) (g : OpenGroup)
    (p : Opening × List Char) : Option (Closed × List Char) :=
  match p.1 with
  | .setting inner => plain (inner.group names (g.add ⟨.empty, 0, true⟩) p.2)
  | .group numbered inner name =>
    if name.any names.contains then none
    else (plain (inner.group (name.toList ++ names) {} p.2)).bind fun q => match q.2 with
      | [] => none
      | e :: u =>
        if e = ')' then plain (flags.group q.1.names
          (g.add ⟨.group numbered q.1.item.regex, q.1.item.depth + 1, false⟩) u)
        else none

lemma plain_group (names : List (List Char)) (g : OpenGroup) (s : List Char) :
    plain (flags.group names g s) = match flags.skip s with
      | [] => some (⟨g.close, names⟩, [])
      | d :: t =>
        if d = ')' then some (⟨g.close, names⟩, d :: t)
        else if d = '|' then plain (flags.group names g.branch t)
        else if d = '(' then
          (plain (flags.opening (flags.skip t))).bind (afterOpening flags names g)
        else if d = '[' then
          (plain (flags.bracketed t)).bind fun p =>
            plain (flags.group names (g.add ⟨.char p.1.set, p.1.depth, false⟩) p.2)
        else if d = '\x7b' then
          (plain (flags.counts t)).bind fun p =>
            (g.repeatLast p.1.1 p.1.2).bind fun g => plain (flags.group names g p.2)
        else match repetition? d with
          | some counts =>
            (g.repeatLast counts.1 counts.2).bind fun g => plain (flags.group names g (skipLazy t))
          | none => (plain (flags.primitive (d :: t))).bind fun p =>
            plain (flags.group names (g.add p.1) p.2) := by
  have hrepeat : ∀ least most t h,
      plain (do
        let rest ← flags.group names (← g.repeatLast least most) t
        return rest.widen (n := s.length + 1) h) =
      (g.repeatLast least most).bind fun g => plain (flags.group names g t) := by
    intro least most t h
    cases g.repeatLast least most with
    | none => rfl
    | some g => exact plain_widen fun p => rfl
  rw [Flags.group]
  split
  · rename_i hs
    rw [hs]
    rfl
  · rename_i t hs
    simp only [hs, if_true]
    rfl
  · rename_i t hs
    simp only [hs]
    exact plain_widen fun p => rfl
  · -- a parenthesis: a group, or a setting of flags
    rename_i t hs
    simp only [hs]
    refine plain_bind fun p => ?_
    rw [afterOpening]
    dsimp only [Parsed.plain]
    cases p.value with
    | setting inner => exact plain_widen fun q => rfl
    | group numbered inner name =>
      dsimp only
      split_ifs
      · rfl
      · refine plain_bind fun q => ?_
        dsimp only [Parsed.plain]
        split
        · rename_i u hu
          simp only [hu, if_true]
          exact plain_widen fun r => rfl
        · rename_i hne
          rcases hu : q.rest with _ | ⟨e, u⟩
          · rfl
          · have he : e ≠ ')' := ne_of_not_cons hne hu
            exact (if_neg he).symm
  · rename_i t hs
    simp only [hs]
    exact plain_bind fun p => plain_widen fun q => rfl
  · -- the repetitions
    rename_i t hs
    simp only [hs]
    exact hrepeat ..
  · rename_i t hs
    simp only [hs]
    exact hrepeat ..
  · rename_i t hs
    simp only [hs]
    exact hrepeat ..
  · rename_i t hs
    simp only [hs]
    refine plain_bind fun p => ?_
    exact hrepeat ..
  · -- a primitive
    rename_i d t hclose hbranch hopen hbracket hoption hstar hplus hbrace hs
    have hrepetition : repetition? d = none := by
      rw [repetition?, if_neg hoption, if_neg hstar, if_neg hplus]
    simp only [hs, hrepetition]
    rw [if_neg hclose, if_neg hbranch, if_neg hopen, if_neg hbracket, if_neg hbrace]
    exact plain_bind fun p => plain_widen fun q => rfl

lemma exhausts_group_nil (names : List (List Char)) (g : OpenGroup) :
    Exhausts (plain (flags.group names g [])) :=
  exhausts_plain (Nat.le_refl 1) _

/-- The next construct after a brace that nothing closes is refused. -/
lemma exhausts_group_brace (hc : IsCloser c) (names : List (List Char)) (g : OpenGroup)
    {u : List Char} (hu : flags.skip u = []) :
    Exhausts (plain (flags.group names g ('\x7b' :: (u ++ [c])))) := by
  have hcounts : Appended c none (plain (flags.counts (u ++ [c]))) := by
    have hnone : plain (flags.counts u) = none := by
      rw [plain_counts, hu, afterLeast, count?_nil]
      rfl
    rw [← hnone]
    exact counts_appended flags hc u
  have hexhausts : Exhausts (plain (flags.counts (u ++ [c]))) := by
    obtain ⟨a, r, h, -⟩ | ⟨-, h, -⟩ := hcounts
    · cases h
    · exact h
  rw [plain_group, skip_brace]
  refine hexhausts.bind fun counts => ?_
  cases g.repeatLast counts.1 counts.2 with
  | none => exact exhausts_none
  | some g => exact exhausts_group_nil flags names g

/-- The rest of a group after an opening parenthesis, if groups are read the same way. -/
lemma afterOpening_appended (names : List (List Char)) (g : OpenGroup) (opening : Opening)
    {r : List Char} (hgroup : ∀ (flags : Flags) names g (u : List Char), u.length ≤ r.length →
      Appended c (plain (flags.group names g u)) (plain (flags.group names g (u ++ [c])))) :
    Appended c (afterOpening flags names g (opening, r))
      (afterOpening flags names g (opening, r ++ [c])) := by
  cases opening with
  | setting inner => exact hgroup inner names _ r (Nat.le_refl _)
  | group numbered inner name =>
    dsimp only [afterOpening]
    split_ifs
    · exact appended_none
    · refine (hgroup inner _ {} r (Nat.le_refl _)).bind (fun body u hu => ?_) fun body => ?_
      · have hlen : u.length < r.length + 1 := length_lt_of_plain hu
        cases u with
        | nil =>
          -- the group is open at the end, and the further character may close it
          dsimp only [List.nil_append]
          split_ifs
          · exact .failed (exhausts_group_nil flags _ _)
          · exact appended_none
        | cons e u =>
          simp only [List.length_cons] at hlen
          dsimp only [List.cons_append]
          split_ifs
          · exact hgroup flags _ _ u (by omega)
          · exact appended_none
      · exact exhausts_none

lemma exhausts_afterOpening_nil (names : List (List Char)) (g : OpenGroup) (opening : Opening) :
    Exhausts (afterOpening flags names g (opening, [])) := by
  cases opening with
  | setting inner => exact exhausts_group_nil inner names _
  | group numbered inner name =>
    dsimp only [afterOpening]
    split_ifs
    · exact exhausts_none
    · exact (exhausts_group_nil inner _ _).bind fun body => exhausts_none

/-- A group is read the same way with a closing parenthesis or a dollar sign after the text. -/
lemma group_appended (flags : Flags) (hc : IsCloser c) (names : List (List Char)) (g : OpenGroup)
    (s : List Char) :
    Appended c (plain (flags.group names g s)) (plain (flags.group names g (s ++ [c]))) := by
  obtain ⟨d, t, hs, hs'⟩ | ⟨hs, hs' | hs'⟩ := skip_append_cases flags hc s
  · have hlt : t.length < s.length := Flags.length_le_of_skip hs
    rw [plain_group, plain_group, hs, hs']
    dsimp only
    split_ifs
    · exact .left
    · exact group_appended flags hc names _ t
    · -- a parenthesis
      have hlen := flags.length_skip_le t
      have hnil := fun opening => exhausts_afterOpening_nil flags names g opening
      obtain h | ⟨h, h'⟩ := skip_append flags hc t
      · rw [h]
        refine (opening_appended flags hc (flags.skip t)).bind (fun opening r hr => ?_) hnil
        have : r.length < (flags.skip t).length + 1 := length_lt_of_plain hr
        exact afterOpening_appended flags names g opening fun inner names g u hu =>
          group_appended inner hc names g u
      · rw [h, h']
        exact .same ((exhausts_plain (Nat.le_refl 1) (flags.opening [])).bind hnil)
    · -- a bracket
      refine (bracketed_appended flags hc t).bind (fun entry r hr => ?_) fun entry => ?_
      · have : r.length < t.length := length_lt_of_plain hr
        exact group_appended flags hc names _ r
      · exact exhausts_group_nil flags names _
    · -- counts in braces
      refine (counts_appended flags hc t).bind (fun counts r hr => ?_) fun counts => ?_
      · have : r.length < t.length := length_lt_of_plain hr
        cases g.repeatLast counts.1 counts.2 with
        | none => exact appended_none
        | some g => exact group_appended flags hc names g r
      · cases g.repeatLast counts.1 counts.2 with
        | none => exact exhausts_none
        | some g => exact exhausts_group_nil flags names g
    · -- a repetition by its sign, or a primitive
      cases repetition? d with
      | some counts =>
        have := length_skipLazy_le t
        dsimp only
        cases g.repeatLast counts.1 counts.2 with
        | none => exact appended_none
        | some g =>
          rw [Option.bind_some, Option.bind_some, skipLazy_append hc]
          exact group_appended flags hc names g (skipLazy t)
      | none =>
        obtain h | ⟨hx, item, u, hu, hy⟩ := primitive_appended flags hc d t
        · refine h.bind (fun item r hr => ?_) fun item => exhausts_group_nil flags names _
          have : r.length < t.length + 1 := length_lt_of_plain hr
          exact group_appended flags hc names _ r
        · rw [hx, hy]
          exact .failed (exhausts_group_brace flags hc names _ hu)
  · -- nothing is left but the further character
    have hx : plain (flags.group names g s) = some (⟨g.close, names⟩, []) := by
      rw [plain_group, hs]
    rw [hx, plain_group, hs']
    rcases hc with rfl | rfl
    · exact .left
    · refine .inr ⟨exhausts_nil _, ?_, .inr (.inr rfl)⟩
      have hend : Exhausts ((plain (flags.primitive ['$'])).bind fun p =>
          plain (flags.group names (g.add p.1) p.2)) :=
        (exhausts_plain (Nat.le_refl 1) _).bind fun item => exhausts_group_nil flags names _
      exact hend
  · -- a comment takes the further character
    have hx : plain (flags.group names g s) = some (⟨g.close, names⟩, []) := by
      rw [plain_group, hs]
    rw [hx, plain_group, hs']
    exact .same (exhausts_nil _)
termination_by s.length

end Groups

/-! ### Proper expressions -/

section Proper

variable (flags : Flags)

/-- What has been read of a group holds proper expressions only. -/
structure OpenGroup.Proper (g : OpenGroup) : Prop where
  items : ∀ item ∈ g.items, item.regex.Proper
  branches : ∀ item ∈ g.branches, item.regex.Proper

lemma proper_foldl (join : Regex → Regex → Regex)
    (hjoin : ∀ {a b}, a.Proper → b.Proper → (join a b).Proper) {items : List Item} {r : Regex}
    (h : ∀ item ∈ items, item.regex.Proper) (hr : r.Proper) :
    (items.foldl (fun r item => join item.regex r) r).Proper := by
  induction items generalizing r with
  | nil => exact hr
  | cons item items ih =>
    rw [List.forall_mem_cons] at h
    exact ih h.2 (hjoin h.1 hr)

lemma proper_concat {items : List Item} (h : ∀ item ∈ items, item.regex.Proper) :
    (concat items).regex.Proper :=
  match items, h with
  | [], _ => trivial
  | [item], h => h item List.mem_cons_self
  | _ :: _ :: _, h => proper_foldl .seq And.intro h trivial

lemma proper_alternatives {items : List Item} (h : ∀ item ∈ items, item.regex.Proper) :
    (alternatives items).regex.Proper :=
  match items, h with
  | [], _ => trivial
  | [item], h => h item List.mem_cons_self
  | _ :: _ :: _, h =>
    have ⟨hlast, hitems⟩ := List.forall_mem_cons.1 h
    proper_foldl .alt And.intro hitems hlast

namespace OpenGroup.Proper

variable {g : OpenGroup}

lemma empty : ({} : OpenGroup).Proper := ⟨nofun, nofun⟩

lemma add (h : g.Proper) {item : Item} (hitem : item.regex.Proper) : (g.add item).Proper :=
  ⟨List.forall_mem_cons.2 ⟨hitem, h.items⟩, h.branches⟩

lemma branch (h : g.Proper) : g.branch.Proper :=
  ⟨nofun, List.forall_mem_cons.2 ⟨proper_concat h.items, h.branches⟩⟩

lemma close (h : g.Proper) : g.close.regex.Proper := proper_alternatives h.branch.branches

lemma repeatLast (h : g.Proper) {least : Nat} {most : Option Nat} {g' : OpenGroup}
    (hmost : ∀ n ∈ most, least ≤ n) (hg : g.repeatLast least most = some g') : g'.Proper := by
  obtain ⟨items, hitems, rfl⟩ := Option.map_eq_some_iff.1 hg
  refine ⟨?_, h.branches⟩
  have hproper := h.items
  rcases hgi : g.items with _ | ⟨item, rest⟩
  · rw [hgi] at hitems
    cases hitems
  · rw [hgi, List.forall_mem_cons] at hproper
    rw [hgi, Regex.repeatLast] at hitems
    split_ifs at hitems
    cases hitems
    exact List.forall_mem_cons.2 ⟨⟨hproper.1, hmost⟩, hproper.2⟩

end OpenGroup.Proper

lemma proper_of_primitive {s r : List Char} {item : Item}
    (h : plain (flags.primitive s) = some (item, r)) : item.regex.Proper := by
  rw [plain_primitive] at h
  cases s with
  | nil => cases h
  | cons d t =>
    dsimp only at h
    split_ifs at h
    · obtain ⟨⟨atom, r'⟩, -, h⟩ := Option.bind_eq_some_iff.1 h
      obtain ⟨item', hitem, h⟩ := Option.map_eq_some_iff.1 h
      cases h
      cases atom with
      | literal d byte =>
        dsimp only [escapedItem] at hitem
        split_ifs at hitem
        cases hitem
        trivial
      | set set =>
        cases hitem
        trivial
      | look condition =>
        cases hitem
        trivial
    · obtain ⟨item', hitem, h⟩ := Option.map_eq_some_iff.1 h
      cases h
      rw [characterItem] at hitem
      split_ifs at hitem
      · obtain ⟨set, -, rfl⟩ := Option.map_eq_some_iff.1 hitem
        trivial
      · cases hitem
        trivial
      · cases hitem
        trivial
      · cases hitem
        trivial

/-- A count that is less than the least one is refused. -/
lemma le_of_counts {s r : List Char} {counts : Nat × Option Nat}
    (h : plain (flags.counts s) = some (counts, r)) : ∀ n ∈ counts.2, counts.1 ≤ n := by
  rw [plain_counts] at h
  obtain ⟨least, -, h⟩ := Option.bind_eq_some_iff.1 h
  rcases hu : (flags.count? (flags.skip s)).2 with _ | ⟨d, t⟩
  · rw [hu] at h
    cases h
  rw [hu] at h
  dsimp only at h
  split_ifs at h
  · cases h
    simp
  · rcases hv : flags.skip t with _ | ⟨e, u⟩
    · rw [hv] at h
      cases h
    rw [hv] at h
    dsimp only at h
    split_ifs at h
    · cases h
      simp
    · obtain ⟨most, -, h⟩ := Option.bind_eq_some_iff.1 h
      rcases hw : (flags.count? (e :: u)).2 with _ | ⟨f, w⟩
      · rw [hw] at h
        cases h
      rw [hw] at h
      dsimp only at h
      split_ifs at h with hle
      cases h
      simpa using hle.2

lemma le_of_repetition {d : Char} {counts : Nat × Option Nat} (h : repetition? d = some counts) :
    ∀ n ∈ counts.2, counts.1 ≤ n := by
  rw [repetition?] at h
  split_ifs at h <;> cases h <;> simp

/-- What is read of a group is proper. -/
lemma proper_of_group (flags : Flags) {names : List (List Char)} {g : OpenGroup} (hg : g.Proper)
    {s r : List Char} {closed : Closed} (h : plain (flags.group names g s) = some (closed, r)) :
    closed.item.regex.Proper := by
  rw [plain_group] at h
  rcases hs : flags.skip s with _ | ⟨d, t⟩
  · rw [hs] at h
    cases h
    exact hg.close
  have hlt : t.length < s.length := Flags.length_le_of_skip hs
  have hlen := flags.length_skip_le t
  rw [hs] at h
  dsimp only at h
  split_ifs at h
  · cases h
    exact hg.close
  · exact proper_of_group flags hg.branch h
  · -- a parenthesis
    obtain ⟨⟨opening, u⟩, hu, h⟩ := Option.bind_eq_some_iff.1 h
    have hlt' : u.length < (flags.skip t).length + 1 := length_lt_of_plain hu
    cases opening with
    | setting inner =>
      refine proper_of_group inner (hg.add ?_) h
      trivial
    | group numbered inner name =>
      dsimp only [afterOpening] at h
      split_ifs at h
      obtain ⟨⟨body, v⟩, hv, h⟩ := Option.bind_eq_some_iff.1 h
      have hlt'' : v.length < u.length + 1 := length_lt_of_plain hv
      have hbody := proper_of_group inner .empty hv
      rcases v with _ | ⟨e, w⟩
      · cases h
      have hw : w.length < s.length := by
        simp only [List.length_cons] at hlt''
        omega
      dsimp only at h
      split_ifs at h
      refine proper_of_group flags (hg.add ?_) h
      exact hbody
  · -- a bracket
    obtain ⟨⟨entry, u⟩, hu, h⟩ := Option.bind_eq_some_iff.1 h
    have hlt' : u.length < t.length := length_lt_of_plain hu
    refine proper_of_group flags (hg.add ?_) h
    trivial
  · -- counts in braces
    obtain ⟨⟨counts, u⟩, hu, h⟩ := Option.bind_eq_some_iff.1 h
    have hlt' : u.length < t.length := length_lt_of_plain hu
    obtain ⟨g', hg', h⟩ := Option.bind_eq_some_iff.1 h
    exact proper_of_group flags (hg.repeatLast (le_of_counts flags hu) hg') h
  · cases hd : repetition? d with
    | some counts =>
      have hlazy := length_skipLazy_le t
      rw [hd] at h
      obtain ⟨g', hg', h⟩ := Option.bind_eq_some_iff.1 h
      exact proper_of_group flags (hg.repeatLast (le_of_repetition hd) hg') h
    | none =>
      rw [hd] at h
      obtain ⟨⟨item, u⟩, hu, h⟩ := Option.bind_eq_some_iff.1 h
      have hlt' : u.length < t.length + 1 := length_lt_of_plain hu
      exact proper_of_group flags (hg.add (proper_of_primitive flags hu)) h
termination_by s.length

end Proper

end JsonQuery.Regex
