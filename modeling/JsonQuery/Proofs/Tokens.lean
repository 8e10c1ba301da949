import JsonQuery.Proofs.Grammar
import Mathlib.Data.List.TakeWhile
import Mathlib.Tactic.Convert
import Mathlib.Tactic.SplitIfs

/-!
Tokens are taken off a text by their own characters: what follows a token has no part in it,
unless its first character would make the token longer. So a token is the same alone and in
the midst of a text, which is what lets a grammar speak of tokens as texts.
-/

namespace JsonQuery

/-- A text that does not begin with one of those characters. -/
def Avoids (p : Char → Bool) (t : List Char) : Prop := ∀ c ∈ t.head?, p c = false

lemma avoids_nil (p : Char → Bool) : Avoids p [] := by
  intro c hc
  cases hc

lemma avoids_cons {p : Char → Bool} {c : Char} {t : List Char} (h : p c = false) :
    Avoids p (c :: t) := by
  intro d hd
  cases hd
  exact h

lemma Avoids.mono {p q : Char → Bool} {t : List Char} (h : Avoids q t)
    (hpq : ∀ c, p c = true → q c = true) : Avoids p t := by
  intro c hc
  cases hp : p c with
  | false => rfl
  | true => exact absurd (hpq c hp) (by simp [h c hc])

lemma avoids_dropWhile (p : Char → Bool) (s : List Char) : Avoids p (s.dropWhile p) := by
  induction s with
  | nil => exact avoids_nil p
  | cons c s ih =>
    by_cases hc : p c = true
    · rwa [List.dropWhile_cons_of_pos hc]
    · rw [List.dropWhile_cons_of_neg hc]
      exact avoids_cons (by simpa using hc)

lemma Avoids.takeWhile_eq {p : Char → Bool} {t : List Char} (h : Avoids p t) :
    t.takeWhile p = [] := by
  cases t with
  | nil => rfl
  | cons c t => simp [h c rfl]

lemma Avoids.dropWhile_eq {p : Char → Bool} {t : List Char} (h : Avoids p t) :
    t.dropWhile p = t := by
  cases t with
  | nil => rfl
  | cons c t => simp [h c rfl]

section Runs

variable {p : Char → Bool} {w t : List Char} (hw : ∀ c ∈ w, p c = true) (ht : Avoids p t)
include hw ht

lemma takeWhile_append_of_avoids : (w ++ t).takeWhile p = w := by
  rw [List.takeWhile_append_of_pos hw, ht.takeWhile_eq, List.append_nil]

lemma dropWhile_append_of_avoids : (w ++ t).dropWhile p = t := by
  rw [List.dropWhile_append_of_pos hw, ht.dropWhile_eq]

end Runs

/-- A reader of tokens. A token begins with a character of one kind, and followed by none of
another kind it is read as it is when it stands alone. -/
def Cuts {α : Type} (read : List Char → Option (α × List Char)) (begins goesOn : Char → Bool) :
    Prop :=
  ∀ s a rest, read s = some (a, rest) → ∃ w, s = w ++ rest ∧ (∀ c ∈ w.head?, begins c = true) ∧
    ∀ t, Avoids goesOn t → read (w ++ t) = some (a, t)

namespace Cuts

variable {α β : Type} {read : List Char → Option (α × List Char)} {begins goesOn : Char → Bool}

lemma token (h : Cuts read begins goesOn) {s rest : List Char} {a : α}
    (hs : read s = some (a, rest)) : ∃ w, s = w ++ rest ∧ read w = some (a, []) := by
  obtain ⟨w, rfl, -, hw⟩ := h s a rest hs
  exact ⟨w, rfl, by simpa using hw [] (avoids_nil _)⟩

lemma append (h : Cuts read begins goesOn) {w t : List Char} {a : α}
    (hw : read w = some (a, [])) (ht : Avoids goesOn t) : read (w ++ t) = some (a, t) := by
  obtain ⟨v, rfl, -, hv⟩ := h w a [] hw
  simpa using hv t ht

lemma head (h : Cuts read begins goesOn) {w : List Char} {a : α} (hw : read w = some (a, [])) :
    ∀ c ∈ w.head?, begins c = true := by
  obtain ⟨v, rfl, hv, -⟩ := h w a [] hw
  simpa using hv

/-- One reader after another, if what the second one's tokens begin with stops the first. -/
lemma bind {read' : α → List Char → Option (β × List Char)} {begins' goesOn' : Char → Bool}
    (h : Cuts read begins goesOn) (h' : ∀ a, Cuts (read' a) begins' goesOn')
    (hstop : ∀ c, begins' c = true → goesOn c = false) :
    Cuts (fun s => (read s).bind fun p => read' p.1 p.2) (fun c => begins c || begins' c)
      (fun c => goesOn c || goesOn' c) := by
  intro s b rest hs
  obtain ⟨⟨a, mid⟩, ha, hb⟩ := Option.bind_eq_some_iff.1 hs
  obtain ⟨v, rfl, hv, hread⟩ := h s a mid ha
  obtain ⟨w, rfl, hw, hread'⟩ := h' a mid b rest hb
  refine ⟨v ++ w, by simp, ?_, fun t ht => ?_⟩
  · intro c hc
    cases v with
    | nil => simp [hw c hc]
    | cons d v => simp [hv c hc]
  · have hmid : Avoids goesOn (w ++ t) := by
      cases w with
      | nil => exact ht.mono fun c hc => by simp [hc]
      | cons d w => exact avoids_cons (hstop d (hw d rfl))
    simp only [List.append_assoc, hread _ hmid, Option.bind_some]
    exact hread' t (ht.mono fun c hc => by simp [hc])

/-- What is made of the value of a token does not matter. -/
lemma filterMap (h : Cuts read begins goesOn) (f : α → Option β) :
    Cuts (fun s => (read s).bind fun p => (f p.1).map fun b => (b, p.2)) begins goesOn := by
  intro s b rest hs
  obtain ⟨⟨a, r⟩, ha, hb⟩ := Option.bind_eq_some_iff.1 hs
  obtain ⟨b', hf, heq⟩ := Option.map_eq_some_iff.1 hb
  cases heq
  obtain ⟨w, rfl, hw, hread⟩ := h s a r ha
  refine ⟨w, rfl, hw, fun t ht => ?_⟩
  simp only [hread t ht, Option.bind_some, hf, Option.map_some]

end Cuts

/-! ### Numbers -/

namespace NumberToken

lemma spanDigits_append {ds t : List Char} (hd : ∀ c ∈ ds, c.isDigit = true)
    (ht : Avoids Char.isDigit t) : spanDigits (ds ++ t) = (ds, t) := by
  rw [spanDigits, takeWhile_append_of_avoids hd ht, dropWhile_append_of_avoids hd ht]

lemma isDigit_of_mem_spanDigits {s : List Char} : ∀ c ∈ (spanDigits s).1, c.isDigit = true := by
  intro c hc
  exact List.mem_takeWhile_imp hc

lemma spanDigits_eq (s : List Char) : (spanDigits s).1 ++ (spanDigits s).2 = s :=
  List.takeWhile_append_dropWhile

/-- Readers of digits that only look at the digits. -/
lemma cuts_digits (accepts : List Char → Bool) :
    Cuts (fun s => if accepts (spanDigits s).1 then some (spanDigits s) else none)
      Char.isDigit Char.isDigit := by
  intro s ds rest h
  dsimp only at h
  split at h
  · rename_i hacc
    obtain ⟨hds, hrest⟩ := Prod.ext_iff.1 (Option.some.inj h)
    dsimp only at hds hrest
    subst hds hrest
    refine ⟨(spanDigits s).1, (spanDigits_eq s).symm, ?_, fun t ht => ?_⟩
    · intro c hc
      exact isDigit_of_mem_spanDigits c (List.mem_of_mem_head? hc)
    · simp only [spanDigits_append isDigit_of_mem_spanDigits ht, hacc, if_true]
  · cases h

lemma cuts_scanWhole : Cuts scanWhole Char.isDigit Char.isDigit := cuts_digits isWhole

lemma cuts_scanDigits : Cuts scanDigits Char.isDigit Char.isDigit := by
  have h := cuts_digits fun ds => !ds.isEmpty
  simpa [Cuts, scanDigits] using h

lemma cuts_scanMinus : Cuts (fun s => some (scanMinus s)) (· == '-') (· == '-') := by
  intro s negative rest h
  have hs := Option.some.inj h
  unfold scanMinus at hs
  split at hs
  · cases hs
    exact ⟨['-'], rfl, by simp, fun t _ => rfl⟩
  · rename_i hne
    cases hs
    refine ⟨[], rfl, by simp, fun t ht => ?_⟩
    cases t with
    | nil => rfl
    | cons c t =>
      have hc : c ≠ '-' := by simpa using ht c rfl
      simp [scanMinus, hc]

lemma cuts_scanSign : Cuts (fun s => some (scanSign s)) (fun c => c == '+' || c == '-')
    (fun c => c == '+' || c == '-') := by
  intro s negative rest h
  have hs := Option.some.inj h
  unfold scanSign at hs
  split at hs
  · cases hs
    exact ⟨['+'], rfl, by simp, fun t _ => rfl⟩
  · cases hs
    exact ⟨['-'], rfl, by simp, fun t _ => rfl⟩
  · cases hs
    refine ⟨[], rfl, by simp, fun t ht => ?_⟩
    cases t with
    | nil => rfl
    | cons c t =>
      have hc : c ≠ '+' ∧ c ≠ '-' := by simpa using ht c rfl
      simp [scanSign, hc]

lemma cuts_scanFraction : Cuts scanFraction (· == '.') (fun c => c == '.' || c.isDigit) := by
  intro s fraction rest h
  unfold scanFraction at h
  split at h
  · rename_i s
    obtain ⟨⟨ds, r⟩, hds, heq⟩ := Option.map_eq_some_iff.1 h
    cases heq
    obtain ⟨w, rfl, -, hw⟩ := cuts_scanDigits s ds _ hds
    refine ⟨'.' :: w, rfl, by simp, fun t ht => ?_⟩
    rw [List.cons_append, scanFraction, hw t (ht.mono fun c hc => by simp [hc])]
    rfl
  · cases h
    refine ⟨[], rfl, by simp, fun t ht => ?_⟩
    cases t with
    | nil => rfl
    | cons c t =>
      have hc : c ≠ '.' := by simpa using (Bool.or_eq_false_iff.1 (ht c rfl)).1
      simp [scanFraction, hc]

/-- The digits of an exponent, after its sign. -/
lemma cuts_signedDigits : Cuts (fun s => (some (scanSign s)).bind fun p =>
    (scanDigits p.2).bind fun q => (some (some (p.1, q.1))).map fun e => (e, q.2))
    (fun c => c == '+' || c == '-' || c.isDigit) (fun c => c == '+' || c == '-' || c.isDigit) := by
  refine Cuts.bind cuts_scanSign (fun negative => cuts_scanDigits.filterMap fun ds =>
    some (some (negative, ds))) fun c hc => ?_
  cases h : c == '+' || c == '-' with
  | false => rfl
  | true =>
    rcases Bool.or_eq_true_iff.1 h with h | h <;> rw [beq_iff_eq.1 h] at hc <;> cases hc

lemma scanExponent_of_avoids {t : List Char}
    (h : Avoids (fun c => c == 'e' || c == 'E' || (c == '+' || c == '-' || c.isDigit)) t) :
    scanExponent t = some (none, t) := by
  cases t with
  | nil => rfl
  | cons c t =>
    have hc : ¬(c = 'e' ∨ c = 'E') := by
      have hc := h c rfl
      simp only [Bool.or_eq_false_iff, beq_eq_false_iff_ne] at hc
      rintro (rfl | rfl) <;> simp at hc
    rw [scanExponent, if_neg hc]

lemma scanExponent_cons {c : Char} (hc : c = 'e' ∨ c = 'E') (s : List Char) :
    scanExponent (c :: s) = (some (scanSign s)).bind fun p =>
      (scanDigits p.2).bind fun q => (some (some (p.1, q.1))).map fun e => (e, q.2) := by
  rw [scanExponent, if_pos hc, Option.bind_some]
  rcases scanDigits (scanSign s).2 with _ | ds
  · rfl
  · rfl

lemma cuts_scanExponent : Cuts scanExponent (fun c => c == 'e' || c == 'E')
    (fun c => c == 'e' || c == 'E' || (c == '+' || c == '-' || c.isDigit)) := by
  intro s exponent rest h
  cases s with
  | nil =>
    cases h
    exact ⟨[], rfl, by simp, fun t ht => scanExponent_of_avoids ht⟩
  | cons c s =>
    by_cases hc : c = 'e' ∨ c = 'E'
    · rw [scanExponent_cons hc] at h
      obtain ⟨w, rfl, -, hw⟩ := cuts_signedDigits s exponent rest h
      refine ⟨c :: w, rfl, by simpa using hc, fun t ht => ?_⟩
      rw [List.cons_append, scanExponent_cons hc]
      exact hw t (ht.mono fun d hd => by simp [hd])
    · rw [scanExponent, if_neg hc] at h
      cases h
      exact ⟨[], rfl, by simp, fun t ht => scanExponent_of_avoids ht⟩

/-- The characters that can make a number longer. -/
def continues (c : Char) : Bool :=
  c == '-' || (c.isDigit || (c == '.' || c.isDigit ||
    (c == 'e' || c == 'E' || (c == '+' || c == '-' || c.isDigit))))

lemma cuts_scan? : Cuts scan?
    (fun c => c == '-' || (c.isDigit || (c == '.' || (c == 'e' || c == 'E')))) continues := by
  refine Cuts.bind cuts_scanMinus (fun negative => Cuts.bind cuts_scanWhole (fun whole =>
    Cuts.bind cuts_scanFraction (fun fraction => cuts_scanExponent.filterMap fun exponent =>
      some (⟨negative, whole, fraction, exponent⟩ : NumberToken)) ?_) ?_) ?_
  · intro c hc
    simp only [Bool.or_eq_true, beq_iff_eq] at hc
    rcases hc with rfl | rfl <;> decide
  · intro c hc
    simp only [Bool.or_eq_true, beq_iff_eq] at hc
    rcases hc with rfl | rfl | rfl <;> decide
  · intro c hc
    simp only [Bool.or_eq_true, beq_iff_eq] at hc
    rw [beq_eq_false_iff_ne]
    rintro rfl
    revert hc
    decide

end NumberToken

/-! ### The tokens of queries -/

namespace Token

lemma int?_plain (s : List Char) : (int? s).map Parsed.plain =
    (NumberToken.scanWhole (NumberToken.scanMinus s).2).bind fun p =>
      (intValue? (NumberToken.scanMinus s).1 p.1).map fun n => (n, p.2) := by
  rw [int?]
  split
  · rename_i hs
    simp [hs]
  · rename_i ds r hs
    simp [hs, Parsed.plain, Function.comp_def]

lemma cuts_int? : Cuts (fun s => (int? s).map Parsed.plain) (fun c => c == '-' || c.isDigit)
    (fun c => c == '-' || c.isDigit) := by
  have h : Cuts _ _ _ := Cuts.bind NumberToken.cuts_scanMinus (fun negative =>
    NumberToken.cuts_scanWhole.filterMap (intValue? negative)) fun c hc => by
      rw [beq_eq_false_iff_ne]
      rintro rfl
      cases hc
  convert h using 2 with s
  exact int?_plain s

lemma number?_plain (s : List Char) : (number? s).map Parsed.plain =
    (NumberToken.scan? s).bind fun p => p.1.double?.map fun x => (x, p.2) := by
  rw [number?]
  split
  · rename_i hs
    simp [hs]
  · rename_i token r hs
    simp [hs, Parsed.plain, Function.comp_def]

lemma cuts_number? : Cuts (fun s => (number? s).map Parsed.plain)
    (fun c => c == '-' || (c.isDigit || (c == '.' || (c == 'e' || c == 'E'))))
    NumberToken.continues := by
  have h := NumberToken.cuts_scan?.filterMap NumberToken.double?
  convert h using 2 with s
  exact number?_plain s

lemma cuts_name? : Cuts (fun s => (name? s).map Parsed.plain) startsName continuesName := by
  intro s n rest h
  cases s with
  | nil => cases h
  | cons c s =>
    simp only [name?] at h
    split_ifs at h with hc
    · cases h
      refine ⟨c :: s.takeWhile continuesName, ?_, ?_, fun t ht => ?_⟩
      · simp
      · simpa using hc
      · have hs : ∀ d ∈ s.takeWhile continuesName, continuesName d = true :=
          fun d hd => List.mem_takeWhile_imp hd
        simp [name?, hc, Parsed.plain, takeWhile_append_of_avoids hs ht,
          dropWhile_append_of_avoids hs ht]
    · cases h

lemma name?_eq {s n rest : List Char} (h : (name? s).map Parsed.plain = some (n, rest)) :
    s = n ++ rest := by
  cases s with
  | nil => cases h
  | cons c s =>
    simp only [name?] at h
    split_ifs at h
    · cases h
      simp
    · cases h

lemma comparison?_eq {s t : List Char} {op : Operator}
    (h : (comparison? s).map Parsed.plain = some (op, t)) :
    op.isComparison = true ∧ s = op.symbol.toList ++ t := by
  unfold comparison? at h
  split at h <;> cases h <;> exact ⟨rfl, by simp [Operator.symbol]⟩

end Token

end JsonQuery
