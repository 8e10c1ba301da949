import JsonQuery.Regex.Reading
import JsonQuery.Proofs.Grammar
import Mathlib.Data.List.Basic

/-!
Patterns with a character put after them. A closing parenthesis or a dollar sign after a text
is left over by each reader of patterns, unless that reader goes to the end of the text anyway;
then it takes the further character too, or fails. So the character changes nothing in what is
read before it, and only a comment can hide it.
-/

namespace JsonQuery.Regex

/-- What a reader takes from a text, without the bound on the length of the rest. -/
def plain {α : Type} {n : Nat} (x : Option (Parsed α n)) : Option (α × List Char) :=
  x.map Parsed.plain

section Plain

variable {α β : Type} {m n : Nat} {x : Option (Parsed α m)}

@[simp] lemma plain_none : plain (none : Option (Parsed α n)) = none := rfl

@[simp] lemma plain_some (p : Parsed α n) : plain (some p) = some p.plain := rfl

lemma plain_bind {f : Parsed α m → Option (Parsed β n)}
    {g : α × List Char → Option (β × List Char)} (h : ∀ p, plain (f p) = g p.plain) :
    plain (x >>= f) = (plain x).bind g := by
  cases x with
  | none => rfl
  | some p => exact h p

lemma plain_bind_pure {f : Parsed α m → Parsed β n} {g : α × List Char → β × List Char}
    (h : ∀ p, (f p).plain = g p.plain) :
    plain (x >>= fun p => pure (f p)) = (plain x).map g := by
  cases x with
  | none => rfl
  | some p => exact congrArg some (h p)

/-- A reading whose value is another one, if there is one. -/
def recast (f : α → Option β) (x : Option (α × List Char)) : Option (β × List Char) :=
  x.bind fun p => (f p.1).map (·, p.2)

lemma plain_recast {f : Parsed α m → Option (Parsed β n)} {g : α → Option β}
    (h : ∀ p, plain (f p) = (g p.value).map (·, p.rest)) :
    plain (x >>= f) = recast g (plain x) := plain_bind h

/-- Widening the bound is not seen. -/
lemma plain_widen {f : Parsed α m → Parsed α n} (h : ∀ p, (f p).plain = p.plain) :
    plain (x >>= fun p => pure (f p)) = plain x := by
  cases x with
  | none => rfl
  | some p => exact congrArg some (h p)

lemma plain_map_widen {f : Parsed α m → Parsed α n} (h : ∀ p, (f p).plain = p.plain) :
    plain (x.map f) = plain x := by
  cases x with
  | none => rfl
  | some p => exact congrArg some (h p)

end Plain

/-! ### A further character -/

/-- Nothing is left over. -/
def Exhausts {α : Type} (x : Option (α × List Char)) : Prop := ∀ a r, x = some (a, r) → r = []

/-- How a reading changes when a character is put after the text: the character is left over,
or nothing is left over either way. Then the text alone was refused or the character is not
seen, unless it is a dollar sign, which is a condition of its own. -/
def Appended {α : Type} (c : Char) (x y : Option (α × List Char)) : Prop :=
  (∃ a r, x = some (a, r) ∧ y = some (a, r ++ [c])) ∨
    Exhausts x ∧ Exhausts y ∧ (x = none ∨ x = y ∨ c = '$')

section Appended

variable {α β : Type} {c : Char} {x y : Option (α × List Char)}

lemma exhausts_none : Exhausts (none : Option (α × List Char)) := fun _ _ h => by cases h

lemma exhausts_nil (a : α) : Exhausts (some (a, [])) := fun _ _ h => by cases h; rfl

/-- The bound on what is left over. -/
lemma length_lt_of_plain {n : Nat} {x : Option (Parsed α n)} {a : α} {r : List Char}
    (h : plain x = some (a, r)) : r.length < n := by
  obtain ⟨p, -, hp⟩ := Option.map_eq_some_iff.1 h
  cases hp
  exact p.fits

/-- A reading with so small a bound leaves nothing over. -/
lemma exhausts_plain {n : Nat} (h : n ≤ 1) (x : Option (Parsed α n)) : Exhausts (plain x) := by
  intro a r hx
  have := length_lt_of_plain hx
  exact List.eq_nil_of_length_eq_zero (by omega)

lemma Exhausts.bind {f : α × List Char → Option (β × List Char)} (h : Exhausts x)
    (hf : ∀ a, Exhausts (f (a, []))) : Exhausts (x.bind f) := by
  intro b r hb
  obtain ⟨⟨a, s⟩, hx, hb⟩ := Option.bind_eq_some_iff.1 hb
  obtain rfl := h a s hx
  exact hf a b r hb

lemma Exhausts.recast (h : Exhausts x) (f : α → Option β) : Exhausts (recast f x) :=
  h.bind fun a b r hb => by
    obtain ⟨b', -, hb⟩ := Option.map_eq_some_iff.1 hb
    cases hb
    rfl

lemma Appended.left {a : α} {r : List Char} : Appended c (some (a, r)) (some (a, r ++ [c])) :=
  .inl ⟨a, r, rfl, rfl⟩

lemma Appended.failed (h : Exhausts y) : Appended c none y := .inr ⟨exhausts_none, h, .inl rfl⟩

lemma Appended.same (h : Exhausts x) : Appended c x x := .inr ⟨h, h, .inr (.inl rfl)⟩

lemma appended_none : Appended c (none : Option (α × List Char)) none := .failed exhausts_none

/-- What is read does not depend on the text after it. -/
lemma appended_map (o : Option α) (r : List Char) :
    Appended c (o.map (·, r)) (o.map (·, r ++ [c])) := by
  cases o with
  | none => exact appended_none
  | some a => exact .left

lemma appended_some (a : α) {r r' : List Char} (h : r' = r ++ [c] ∨ r = [] ∧ r' = []) :
    Appended c (some (a, r)) (some (a, r')) := by
  obtain rfl | ⟨rfl, rfl⟩ := h
  · exact .left
  · exact .same (exhausts_nil a)

lemma Appended.bind {f : α × List Char → Option (β × List Char)} (h : Appended c x y)
    (hf : ∀ a r, x = some (a, r) → Appended c (f (a, r)) (f (a, r ++ [c])))
    (hnil : ∀ a, Exhausts (f (a, []))) : Appended c (x.bind f) (y.bind f) := by
  obtain ⟨a, r, rfl, rfl⟩ | ⟨hx, hy, hxy⟩ := h
  · exact hf a r rfl
  · refine .inr ⟨hx.bind hnil, hy.bind hnil, hxy.imp ?_ (Or.imp_left ?_)⟩
    · exact fun h => h ▸ rfl
    · exact fun h => h ▸ rfl

lemma Appended.recast (h : Appended c x y) (f : α → Option β) :
    Appended c (recast f x) (recast f y) := by
  refine h.bind (fun a r _ => appended_map (f a) r) fun a => ?_
  exact (exhausts_nil a).recast f

lemma Appended.map {f : α → β} (h : Appended c x y) :
    Appended c (x.map fun p => (f p.1, p.2)) (y.map fun p => (f p.1, p.2)) := by
  rw [Option.map_eq_bind, Option.map_eq_bind]
  exact h.bind (fun a r _ => .left) fun a => exhausts_nil _

end Appended

/-- The characters that are put after a pattern. -/
def IsCloser (c : Char) : Prop := c = ')' ∨ c = '$'

instance : DecidablePred IsCloser := fun c => inferInstanceAs (Decidable (c = ')' ∨ c = '$'))

lemma IsCloser.ne {c d : Char} (hc : IsCloser c) (hd : ¬IsCloser d) : c ≠ d :=
  fun h => hd (h ▸ hc)

/-- A text that does not begin with a mark begins with another character. -/
lemma ne_of_not_cons {mark d : Char} {s t : List Char} (hne : ∀ u, s = mark :: u → False)
    (hs : s = d :: t) : d ≠ mark := by
  rintro rfl
  exact hne t hs

section Blanks

variable {c : Char} (flags : Flags)

/-! ### Blanks and comments -/

lemma dropWhile_append_singleton (p : Char → Bool) (hp : p c = false) (s : List Char) :
    (s ++ [c]).dropWhile p = s.dropWhile p ++ [c] := by
  induction s with
  | nil => simp [hp]
  | cons d s ih =>
    rw [List.cons_append, List.dropWhile_cons, List.dropWhile_cons, ih]
    split_ifs <;> rfl

lemma skipWhiteSpace_append (hc : IsCloser c) (s : List Char) :
    skipWhiteSpace (s ++ [c]) = skipWhiteSpace s ++ [c] :=
  dropWhile_append_singleton _ (by rcases hc with rfl | rfl <;> decide) s

/-- Up to the mark, or to the end of a text without it. -/
lemma split_append (p : Char → Bool) (hp : p c = true) (s : List Char) :
    (∃ d t, s.dropWhile p = d :: t ∧ (s ++ [c]).dropWhile p = d :: (t ++ [c]) ∧
        (s ++ [c]).takeWhile p = s.takeWhile p) ∨
      s.dropWhile p = [] ∧ (s ++ [c]).dropWhile p = [] := by
  induction s with
  | nil => exact .inr ⟨rfl, by simp [hp]⟩
  | cons d s ih =>
    rw [List.cons_append, List.dropWhile_cons, List.dropWhile_cons, List.takeWhile_cons,
      List.takeWhile_cons]
    split_ifs
    · obtain ⟨e, t, h, h', htake⟩ | h := ih
      · exact .inl ⟨e, t, h, h', by rw [htake]⟩
      · exact .inr h
    · exact .inl ⟨d, s, rfl, rfl, rfl⟩

lemma eq_of_dropWhile_eq_cons {mark d : Char} {s t : List Char}
    (h : s.dropWhile (· != mark) = d :: t) : d = mark := by
  have hhead := List.head_dropWhile_not (p := (· != mark)) (l := s) (by simp [h])
  simpa [h] using hhead

-- Both equations come from the unfolded definition, as one equation for each case takes Lean
-- seconds to derive.
lemma skipComments_nil : skipComments [] = [] := skipComments.eq_def []

lemma skipComments_cons (d : Char) (t : List Char) :
    skipComments (d :: t) =
      if isWhiteSpace d then skipComments t
      else if d = '#' then skipComments ((t.dropWhile (· ≠ '\n')).drop 1)
      else d :: t := skipComments.eq_def (d :: t)

lemma skipComments_singleton (hc : IsCloser c) : skipComments [c] = [c] := by
  have hspace : isWhiteSpace c = false := by rcases hc with rfl | rfl <;> decide
  have hhash : c ≠ '#' := hc.ne (by decide)
  rw [skipComments_cons, hspace, if_neg Bool.false_ne_true, if_neg hhash]

lemma skipComments_append (hc : IsCloser c) (s : List Char) :
    skipComments (s ++ [c]) = skipComments s ++ [c] ∨
      skipComments s = [] ∧ skipComments (s ++ [c]) = [] := by
  have hfeed : decide (c ≠ '\n') = true := by rcases hc with rfl | rfl <;> decide
  induction hn : s.length using Nat.strongRecOn generalizing s with
  | _ n ih =>
    cases s with
    | nil => exact .inl (by rw [List.nil_append, skipComments_singleton hc, skipComments_nil,
        List.nil_append])
    | cons d s =>
      rw [List.cons_append, skipComments_cons, skipComments_cons]
      simp only [List.length_cons] at hn
      split_ifs
      · exact ih s.length (by omega) s rfl
      · obtain ⟨e, t, h, h', -⟩ | ⟨h, h'⟩ := split_append (· ≠ '\n') hfeed s
        · have hlt := (List.dropWhile_suffix (l := s) (· ≠ '\n')).length_le
          rw [h, List.length_cons] at hlt
          rw [h, h']
          exact ih t.length (by omega) t rfl
        · rw [h, h', List.drop_nil, skipComments_nil]
          exact .inr ⟨rfl, rfl⟩
      · exact .inl rfl

lemma skip_append (hc : IsCloser c) (s : List Char) :
    flags.skip (s ++ [c]) = flags.skip s ++ [c] ∨
      flags.skip s = [] ∧ flags.skip (s ++ [c]) = [] := by
  unfold Flags.skip
  split_ifs
  · exact skipComments_append hc s
  · exact .inl rfl

/-- What stands next is the same, unless there is nothing before the further character. -/
lemma skip_append_cases (hc : IsCloser c) (s : List Char) :
    (∃ d t, flags.skip s = d :: t ∧ flags.skip (s ++ [c]) = d :: (t ++ [c])) ∨
      (flags.skip s = [] ∧ (flags.skip (s ++ [c]) = [c] ∨ flags.skip (s ++ [c]) = [])) := by
  rcases hs : flags.skip s with _ | ⟨d, t⟩
  · refine .inr ⟨rfl, ?_⟩
    obtain h | ⟨-, h⟩ := skip_append flags hc s
    · exact .inl (by rw [h, hs, List.nil_append])
    · exact .inr h
  · refine .inl ⟨d, t, rfl, ?_⟩
    obtain h | ⟨h, -⟩ := skip_append flags hc s
    · rw [h, hs, List.cons_append]
    · rw [hs] at h
      cases h

lemma skip_nil : flags.skip [] = [] := by
  unfold Flags.skip
  split_ifs
  · exact skipComments_nil
  · rfl

lemma skip_brace (t : List Char) : flags.skip ('\x7b' :: t) = '\x7b' :: t := by
  unfold Flags.skip
  split_ifs
  · rw [skipComments_cons, if_neg (by decide), if_neg (by decide)]
  · rfl

lemma skip_singleton (hc : IsCloser c) : flags.skip [c] = [c] := by
  unfold Flags.skip
  split_ifs
  · exact skipComments_singleton hc
  · rfl

end Blanks

end JsonQuery.Regex
