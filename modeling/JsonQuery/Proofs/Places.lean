import JsonQuery.Regex.Basic
import Mathlib.Data.List.Basic
import Mathlib.Tactic.Lemma

/-!
Where matches end. The places computed for an expression are the ends of its matches from the
places given, if each repetition admits at least as many rounds as it requires. A repetition
is followed for as many rounds as the text has places at most: a round that stays at its place
can be left out, so that further rounds reach nothing new.
-/

namespace JsonQuery.Regex

/-! ### Ascending lists of places -/

abbrev Ascending (places : List Nat) : Prop := places.Pairwise (· < ·)

section Places

variable {a b : List Nat} {q : Nat}

lemma mem_merge : q ∈ merge a b ↔ q ∈ a ∨ q ∈ b := by
  fun_induction merge a b with grind

lemma Ascending.merge (ha : Ascending a) (hb : Ascending b) : Ascending (merge a b) := by
  fun_induction Regex.merge a b with grind [mem_merge, List.pairwise_cons]

lemma minus_sublist (a b : List Nat) : (minus a b).Sublist a := by
  fun_induction minus a b with grind

lemma mem_minus (ha : Ascending a) (hb : Ascending b) : q ∈ minus a b ↔ q ∈ a ∧ q ∉ b := by
  fun_induction minus a b with grind [List.pairwise_cons]

end Places

/-! ### Steps in a row -/

/-- From one place to another by exactly so many steps. -/
inductive Times (R : Nat → Nat → Prop) : Nat → Nat → Nat → Prop
  | none {p : Nat} : Times R 0 p p
  | more {n p q r : Nat} (h : R p q) (hs : Times R n q r) : Times R (n + 1) p r

/-- A function on lists of places that takes each place where the steps of a relation lead. -/
structure Takes (step : List Nat → List Nat) (R : Nat → Nat → Prop) : Prop where
  ascending : ∀ places, Ascending places → Ascending (step places)
  mem_iff : ∀ places, Ascending places → ∀ q, q ∈ step places ↔ ∃ p ∈ places, R p q

section Steps

variable {R : Nat → Nat → Prop} {step : List Nat → List Nat} {places : List Nat} {n p q : Nat}

lemma Times.zero_iff : Times R 0 p q ↔ p = q :=
  ⟨fun h => by cases h; rfl, fun h => h ▸ .none⟩

lemma Times.succ_iff : Times R (n + 1) p q ↔ ∃ r, R p r ∧ Times R n r q :=
  ⟨fun h => by cases h with | more h hs => exact ⟨_, h, hs⟩, fun ⟨_, h, hs⟩ => .more h hs⟩

lemma Times.add_iff {m r : Nat} :
    Times R (m + n) p r ↔ ∃ q, Times R m p q ∧ Times R n q r := by
  induction m generalizing p with
  | zero => simp [Times.zero_iff]
  | succ m ih =>
    rw [Nat.succ_add, Times.succ_iff]
    simp only [ih, Times.succ_iff]
    grind

lemma Takes.iterate (h : Takes step R) (n : Nat) : Takes (iterate step n) (Times R n) := by
  induction n with
  | zero => exact ⟨fun _ hp => hp, fun places _ q => by simp [Regex.iterate, Times.zero_iff]⟩
  | succ n ih =>
    refine ⟨fun places hp => ?_, fun places hp q => ?_⟩
    · rw [Regex.iterate]
      split_ifs
      · exact hp
      · exact ih.ascending _ (h.ascending _ hp)
    · have hnext : (∃ p ∈ places, Times R (n + 1) p q) ↔ ∃ p ∈ step places, Times R n p q := by
        simp only [Times.succ_iff, h.mem_iff _ hp]
        grind
      rw [hnext, Regex.iterate]
      split_ifs with hfix
      · -- a set that a step leaves alone is left alone by all further steps
        have hstays : ∀ n, (∃ p ∈ places, Times R n p q) ↔ q ∈ places := fun n => by
          induction n with
          | zero => simp [Times.zero_iff]
          | succ n ihn =>
            rw [← ihn]
            conv_rhs => rw [← hfix]
            simp only [Times.succ_iff, h.mem_iff _ hp]
            grind
        rw [hfix, hstays]
      · exact ih.mem_iff _ (h.ascending _ hp) q

/-- What has been seen contains the new places, and all that follows from the other ones. -/
structure Seen (R : Nat → Nat → Prop) (seen new : List Nat) : Prop where
  ascending_seen : Ascending seen
  ascending_new : Ascending new
  subset : ∀ p ∈ new, p ∈ seen
  closed : ∀ p ∈ seen, p ∉ new → ∀ q, R p q → q ∈ seen

lemma Seen.next {seen new : List Nat} (h : Takes step R) (hs : Seen R seen new) :
    Seen R (merge seen (minus (step new) seen)) (minus (step new) seen) := by
  have hstep := h.ascending new hs.ascending_new
  have hnext := hstep.sublist (minus_sublist (step new) seen)
  refine ⟨hs.ascending_seen.merge hnext, hnext, fun p hp => mem_merge.2 (.inr hp), ?_⟩
  intro p hp hnew q hq
  rw [mem_merge, mem_minus hstep hs.ascending_seen]
  by_cases hseen : q ∈ seen
  · exact .inl hseen
  · refine .inr ⟨(h.mem_iff _ hs.ascending_new q).2 ⟨p, ?_, hq⟩, hseen⟩
    have hp' : p ∈ seen := (mem_merge.1 hp).resolve_right hnew
    exact not_not.1 fun hold => hseen (hs.closed p hp' hold q hq)

/-- The closure holds what at most so many steps reach. -/
lemma Takes.mem_closure (h : Takes step R) (n : Nat) {seen new : List Nat}
    (hs : Seen R seen new) :
    q ∈ closure step n seen new ↔ ∃ k ≤ n, ∃ p ∈ seen, Times R k p q := by
  induction n generalizing seen new with
  | zero => simp [closure, Times.zero_iff]
  | succ n ih =>
    have hnext := hs.next h
    have hmem : ∀ q, q ∈ minus (step new) seen ↔ (∃ p ∈ new, R p q) ∧ q ∉ seen := fun q => by
      rw [mem_minus (h.ascending _ hs.ascending_new) hs.ascending_seen,
        h.mem_iff _ hs.ascending_new]
    rw [closure]
    split
    · rename_i hempty
      -- nothing is new, so that steps lead nowhere else
      have hstays : ∀ {k p q}, Times R k p q → p ∈ seen → q ∈ seen := fun hk => by
        induction hk with
        | none => exact id
        | @more k p r q hr hk ihk =>
          refine fun hp => ihk ?_
          by_contra hnew
          have hpnew : p ∈ new := not_not.1 fun hold => hnew (hs.closed p hp hold r hr)
          have := (hmem r).2 ⟨⟨p, hpnew, hr⟩, hnew⟩
          rw [hempty] at this
          cases this
      exact ⟨fun hq => ⟨0, Nat.zero_le _, q, hq, .none⟩,
        fun ⟨k, _, p, hp, hk⟩ => hstays hk hp⟩
    · rw [ih hnext]
      constructor
      · rintro ⟨k, hk, p, hp, hpq⟩
        obtain hp | hp := mem_merge.1 hp
        · exact ⟨k, by omega, p, hp, hpq⟩
        · obtain ⟨⟨p', hp', hstep⟩, -⟩ := (hmem p).1 hp
          exact ⟨k + 1, by omega, p', hs.subset p' hp', .more hstep hpq⟩
      · rintro ⟨k, hk, p, hp, hpq⟩
        cases hpq with
        | none => exact ⟨0, Nat.zero_le _, q, mem_merge.2 (.inl hp), .none⟩
        | @more k p r q hr hrq =>
          refine ⟨k, by omega, r, mem_merge.2 ?_, hrq⟩
          by_cases hseen : r ∈ seen
          · exact .inl hseen
          · have hpnew : p ∈ new := not_not.1 fun hold => hseen (hs.closed p hp hold r hr)
            exact .inr ((hmem r).2 ⟨⟨p, hpnew, hr⟩, hseen⟩)

lemma Takes.ascending_closure (h : Takes step R) (n : Nat) {seen new : List Nat}
    (hs : Seen R seen new) : Ascending (closure step n seen new) := by
  induction n generalizing seen new with
  | zero => exact hs.ascending_seen
  | succ n ih =>
    rw [closure]
    split
    · exact hs.ascending_seen
    · exact ih (hs.next h)

/-- Steps that stay where they are can be left out. -/
lemma Times.exists_le (h : Times R n p q) (hle : ∀ p q, R p q → p ≤ q) :
    p ≤ q ∧ ∃ k ≤ n, k ≤ q - p ∧ Times R k p q := by
  induction h with
  | none => exact ⟨Nat.le_refl _, 0, Nat.zero_le _, Nat.zero_le _, .none⟩
  | @more n p r q hr hs ih =>
    obtain ⟨hrq, k, hkn, hk, hks⟩ := ih
    have hpr := hle p r hr
    refine ⟨Nat.le_trans hpr hrq, ?_⟩
    rcases Nat.eq_or_lt_of_le hpr with rfl | hlt
    · exact ⟨k, by omega, hk, hks⟩
    · exact ⟨k + 1, by omega, by omega, .more hr hks⟩

end Steps

/-! ### Matches -/

section Matches

variable {text : Array Char} {p q : Nat}

lemma Matches.le {r : Regex} (h : Matches text r p q) : p ≤ q ∧ q ≤ max p text.size := by
  induction h with
  | empty | look | none => omega
  | @char set p c hc =>
    have := (Array.getElem?_eq_some_iff.1 hc).1
    omega
  | seq _ _ iha ihb => omega
  | first _ ih | second _ ih | group _ ih => exact ih
  | one _ _ _ iha ihb => omega

lemma Times.le {r : Regex} {n : Nat} (h : Times (Matches text r) n p q) :
    q ≤ max p text.size := by
  induction h with
  | none => omega
  | more h _ ih => have := h.le; omega

/-- A repetition matches so many times in a row, from the least to the most. -/
lemma matches_repetition_iff {r : Regex} {least : Nat} {most : Option Nat} :
    Matches text (.repetition r least most) p q ↔
      ∃ n, least ≤ n ∧ (∀ m ∈ most, n ≤ m) ∧ Times (Matches text r) n p q := by
  constructor
  · intro h
    generalize hr : Regex.repetition r least most = r' at h
    induction h generalizing least most with
    | none =>
      cases hr
      exact ⟨0, Nat.le_refl _, by simp, .none⟩
    | one hmost hpq _ _ ih =>
      cases hr
      obtain ⟨n, hleast, hn, hs⟩ := ih rfl
      refine ⟨n + 1, by omega, fun m hm => ?_, .more hpq hs⟩
      subst hm
      have := hn (m - 1) rfl
      have : m ≠ 0 := fun h0 => hmost (h0 ▸ rfl)
      omega
    | _ => cases hr
  · rintro ⟨n, hleast, hn, hs⟩
    induction hs generalizing least most with
    | none =>
      obtain rfl : least = 0 := by omega
      exact .none
    | @more n p r q hpr hs ih =>
      refine .one (fun h => ?_) hpr (ih (by omega) fun m hm => ?_)
      · have := hn 0 h
        omega
      · obtain ⟨m', hm', rfl⟩ := Option.map_eq_some_iff.1 hm
        have := hn m' hm'
        omega

end Matches

/-! ### The ends of matches -/

/-- Each repetition admits at least as many rounds as it requires. -/
def Proper : Regex → Prop
  | .empty | .char _ | .look _ => True
  | .seq a b | .alt a b => a.Proper ∧ b.Proper
  | .group _ a => a.Proper
  | .repetition a least most => a.Proper ∧ ∀ n ∈ most, least ≤ n

section Ends

variable {text : Array Char}

lemma ascending_succ {places : List Nat} (h : Ascending places) (f : Nat → Bool) :
    Ascending (places.filterMap fun p => if f p then some (p + 1) else none) := by
  refine List.Pairwise.filterMap _ (fun p q hpq p' hp' q' hq' => ?_) h
  grind

/-- More rounds than the text has places reach nothing new. -/
lemma exists_rounds_iff {r : Regex} {least : Nat} {most : Option Nat} {p q : Nat}
    (hmost : ∀ m ∈ most, least ≤ m) :
    (∃ k ≤ min ((most.map (· - least)).getD (text.size + 1)) (text.size + 1),
        Times (Matches text r) k p q) ↔
      ∃ k, (∀ m ∈ most, least + k ≤ m) ∧ Times (Matches text r) k p q := by
  constructor
  · rintro ⟨k, hk, hs⟩
    refine ⟨k, fun m hm => ?_, hs⟩
    have := hmost m hm
    obtain rfl : most = some m := hm
    simp only [Option.map_some, Option.getD_some] at hk
    omega
  · rintro ⟨k, hk, hs⟩
    obtain ⟨hpq, j, hjk, hj, hs⟩ := hs.exists_le fun _ _ h => h.le.1
    refine ⟨j, ?_, hs⟩
    have := hs.le
    cases most with
    | none =>
      simp only [Option.map_none, Option.getD_none]
      omega
    | some m =>
      have := hk m rfl
      simp only [Option.map_some, Option.getD_some]
      omega

lemma Takes.repetition {r : Regex} {least : Nat} {most : Option Nat}
    (h : Takes (r.ends text) (Matches text r)) (hmost : ∀ m ∈ most, least ≤ m) :
    Takes ((Regex.repetition r least most).ends text)
      (Matches text (.repetition r least most)) := by
  have hstart := h.iterate least
  have hseen : ∀ places, Ascending places → Seen (Matches text r)
      (Regex.iterate (r.ends text) least places) (Regex.iterate (r.ends text) least places) :=
    fun places hp =>
      ⟨hstart.ascending _ hp, hstart.ascending _ hp, fun _ h => h, fun _ h h' => absurd h h'⟩
  refine ⟨fun places hp => h.ascending_closure _ (hseen places hp), fun places hp q => ?_⟩
  have hrounds : ∀ p, Matches text (.repetition r least most) p q ↔
      ∃ s, Times (Matches text r) least p s ∧ ∃ k ≤ min ((most.map (· - least)).getD
        (text.size + 1)) (text.size + 1), Times (Matches text r) k s q := fun p => by
    rw [matches_repetition_iff]
    simp only [exists_rounds_iff hmost]
    constructor
    · rintro ⟨n, hleast, hn, hs⟩
      obtain ⟨k, rfl⟩ := Nat.exists_eq_add_of_le hleast
      obtain ⟨s, hs, hk⟩ := Times.add_iff.1 hs
      exact ⟨s, hs, k, hn, hk⟩
    · rintro ⟨s, hs, k, hn, hk⟩
      exact ⟨least + k, Nat.le_add_right .., hn, Times.add_iff.2 ⟨s, hs, hk⟩⟩
  rw [ends, h.mem_closure _ (hseen places hp)]
  simp only [hrounds, hstart.mem_iff _ hp]
  grind

/-- **The places computed are the ends of matches.** -/
theorem ends_takes (text : Array Char) :
    ∀ r : Regex, r.Proper → Takes (r.ends text) (Matches text r)
  | .empty, _ => by
    refine ⟨fun _ hp => hp, fun places _ q => ⟨fun hq => ⟨q, hq, .empty⟩, ?_⟩⟩
    rintro ⟨p, hp, ⟨⟩⟩
    exact hp
  | .char set, _ => by
    refine ⟨fun places hp => ascending_succ hp _, fun places _ q => ?_⟩
    rw [ends, List.mem_filterMap]
    constructor
    · rintro ⟨p, hp, hq⟩
      split_ifs at hq with hset
      cases hq
      obtain ⟨c, hc, hset⟩ := (Option.any_eq_true _ _).1 hset
      exact ⟨p, hp, .char hc hset⟩
    · rintro ⟨p, hp, hm⟩
      cases hm with
      | char hc hset => exact ⟨p, hp, by rw [hc, Option.any_some, if_pos hset]⟩
  | .look condition, _ => by
    refine ⟨fun places hp => hp.filter _, fun places _ q => ?_⟩
    rw [ends, List.mem_filter]
    constructor
    · rintro ⟨hq, hholds⟩
      exact ⟨q, hq, .look hholds⟩
    · rintro ⟨p, hp, hm⟩
      cases hm with
      | look hholds => exact ⟨hp, hholds⟩
  | .seq a b, hr => by
    have ha := ends_takes text a hr.1
    have hb := ends_takes text b hr.2
    refine ⟨fun places hp => hb.ascending _ (ha.ascending _ hp), fun places hp q => ?_⟩
    rw [ends, hb.mem_iff _ (ha.ascending _ hp)]
    simp only [ha.mem_iff _ hp]
    constructor
    · rintro ⟨s, ⟨p, hp, hps⟩, hsq⟩
      exact ⟨p, hp, .seq hps hsq⟩
    · rintro ⟨p, hp, hm⟩
      cases hm with
      | seq hps hsq => exact ⟨_, ⟨p, hp, hps⟩, hsq⟩
  | .alt a b, hr => by
    have ha := ends_takes text a hr.1
    have hb := ends_takes text b hr.2
    refine ⟨fun places hp => (ha.ascending _ hp).merge (hb.ascending _ hp),
      fun places hp q => ?_⟩
    rw [ends, mem_merge, ha.mem_iff _ hp, hb.mem_iff _ hp]
    constructor
    · rintro (⟨p, hp, hm⟩ | ⟨p, hp, hm⟩)
      · exact ⟨p, hp, .first hm⟩
      · exact ⟨p, hp, .second hm⟩
    · rintro ⟨p, hp, hm⟩
      cases hm with
      | first hm => exact .inl ⟨p, hp, hm⟩
      | second hm => exact .inr ⟨p, hp, hm⟩
  | .group numbered a, hr => by
    have ha := ends_takes text a hr
    refine ⟨ha.ascending, fun places hp q => ?_⟩
    rw [ends, ha.mem_iff _ hp]
    constructor
    · rintro ⟨p, hp, hm⟩
      exact ⟨p, hp, .group hm⟩
    · rintro ⟨p, hp, hm⟩
      cases hm with
      | group hm => exact ⟨p, hp, hm⟩
  | .repetition a least most, hr => (ends_takes text a hr.1).repetition hr.2

/-- An expression matches a text if one of its matches begins at a place of the text. -/
theorem isMatch_iff {r : Regex} (hr : r.Proper) (text : String) :
    r.isMatch text = true ↔
      ∃ p ≤ text.toList.length, ∃ q, Matches text.toList.toArray r p q := by
  have hmem := (ends_takes text.toList.toArray r hr).mem_iff _
    (List.pairwise_lt_range (n := text.toList.length + 1))
  simp only [isMatch, List.size_toArray, Bool.not_eq_true', List.isEmpty_eq_false_iff_exists_mem]
  constructor
  · rintro ⟨q, hq⟩
    obtain ⟨p, hp, h⟩ := (hmem q).1 hq
    exact ⟨p, Nat.le_of_lt_succ (List.mem_range.1 hp), q, h⟩
  · rintro ⟨p, hp, q, h⟩
    exact ⟨q, (hmem q).2 ⟨p, List.mem_range.2 (Nat.lt_succ_of_le hp), h⟩⟩

end Ends

/-! ### Anchors -/

/-- An expression between anchors. -/
def enclosed (r : Regex) : Regex :=
  .seq (.look .textStart) (.seq (.group false r) (.seq (.look .textEnd) .empty))

lemma Proper.enclosed {r : Regex} (hr : r.Proper) : r.enclosed.Proper :=
  ⟨trivial, hr, trivial, trivial⟩

/-- Between anchors, all of the text has to match. -/
lemma matches_enclosed_iff {text : Array Char} {r : Regex} {p q : Nat} (hp : p ≤ text.size) :
    Matches text r.enclosed p q ↔ p = 0 ∧ q = text.size ∧ Matches text r 0 text.size := by
  constructor
  · intro h
    obtain _ | _ | _ | ⟨hstart, _ | _ | _ | ⟨hbody, _ | _ | _ | ⟨hend, hrest⟩⟩⟩ := h
    cases hstart with
    | look hstart =>
      cases hbody with
      | group hbody =>
        cases hend with
        | look hend =>
          cases hrest
          have hq := hbody.le
          -- each anchor leaves one place only
          obtain rfl : p = 0 := by
            by_contra h0
            have : p - 1 < text.size := by omega
            simp [Look.holdsAt, Look.holds, h0, this] at hstart
          obtain rfl : q = text.size := by
            by_contra hne
            have : q < text.size := by omega
            simp [Look.holdsAt, Look.holds, this] at hend
          exact ⟨rfl, rfl, hbody⟩
  · rintro ⟨rfl, rfl, h⟩
    refine .seq (.look ?_) (.seq (.group h) (.seq (.look ?_) .empty))
    · simp [Look.holdsAt, Look.holds]
    · simp [Look.holdsAt, Look.holds]

lemma isMatch_enclosed_iff {r : Regex} (hr : r.Proper) (text : String) :
    r.enclosed.isMatch text = true ↔
      Matches text.toList.toArray r 0 text.toList.length := by
  rw [isMatch_iff hr.enclosed]
  constructor
  · rintro ⟨p, hp, q, h⟩
    exact ((matches_enclosed_iff (by simpa using hp)).1 h).2.2
  · intro h
    exact ⟨0, Nat.zero_le _, _, (matches_enclosed_iff (Nat.zero_le _)).2 ⟨rfl, rfl, h⟩⟩

end JsonQuery.Regex
