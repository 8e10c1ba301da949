import JsonQuery.Proofs.GrammarSound

/-!
Where tokens are refused. A reader that fails names the text it stands at; what it has gone
past by then is the beginning of something that it would have read. For a string that may be
half a surrogate pair, for a slice the bounds before a malformed one.
-/

namespace JsonQuery

section Refused

variable {α β : Type}

/-- The text that a reader stands at when it fails. -/
def refused : Except Failure α → Option (List Char)
  | .ok _ => none
  | .error f => some f.rest

variable {x : Except Failure α} {r : List Char}

lemma refused_bind {f : α → Except Failure β} (h : refused (x >>= f) = some r) :
    refused x = some r ∨ ∃ a, x = .ok a ∧ refused (f a) = some r := by
  cases x with
  | error e => exact .inl h
  | ok a => exact .inr ⟨a, rfl, h⟩

lemma refused_bind_pure {f : α → β} (h : refused (x >>= fun a => pure (f a)) = some r) :
    refused x = some r := by
  cases x with
  | error e => exact h
  | ok a => cases h

lemma refused_map {f : α → β} (h : refused (x.map f) = some r) : refused x = some r := by
  cases x with
  | error e => exact h
  | ok a => cases h

lemma taken_of_eq_ok {n : Nat} {x : Except Failure (Parsed α n)} {p : Parsed α n}
    (h : x = .ok p) : taken x = some (p.value, p.rest) := by
  rw [h]
  rfl

end Refused

/-- What a text has before a place is the beginning of something derivable. -/
def Stops {α : Type} (P : List Char → α → Prop) (s r : List Char) : Prop :=
  ∃ w, s = w ++ r ∧ ∃ more a, P (w ++ more) a

namespace Stops

variable {α β : Type} {P : List Char → α → Prop} {Q : List Char → β → Prop} {s r : List Char}

lemma here {more : List Char} {a : α} (h : P more a) : Stops P r r := ⟨[], rfl, more, a, h⟩

lemma after {w : List Char} (more : List Char) {a : α} (hs : s = w ++ r) (h : P (w ++ more) a) :
    Stops P s r := ⟨w, hs, more, a, h⟩

lemma behind {w : List Char} {a : α} (hs : s = w ++ r) (h : P w a) : Stops P s r :=
  ⟨w, hs, [], a, by rwa [List.append_nil]⟩

/-- What a part begins with is what the whole begins with, if the whole can be closed. -/
lemma enclosed {t : List Char} (h : Stops P s r) (v close : List Char) (ht : t = v ++ s)
    (hQ : ∀ {w a}, P w a → ∃ b, Q (v ++ w ++ close) b) : Stops Q t r := by
  obtain ⟨w, rfl, more, a, hw⟩ := h
  obtain ⟨b, hb⟩ := hQ hw
  exact ⟨v ++ w, by rw [ht, List.append_assoc], more ++ close, b, by simpa using hb⟩

/-- The same where the part is the last. -/
lemma within {t : List Char} (h : Stops P s r) (v : List Char) (ht : t = v ++ s)
    (hQ : ∀ {w a}, P w a → ∃ b, Q (v ++ w) b) : Stops Q t r := by
  refine h.enclosed v [] ht fun hw => ?_
  rw [List.append_nil]
  exact hQ hw

/-- The same where the part is the whole. -/
lemma imp (h : Stops P s r) (hQ : ∀ {w a}, P w a → ∃ b, Q w b) : Stops Q s r := by
  obtain ⟨w, rfl, more, a, hw⟩ := h
  obtain ⟨b, hb⟩ := hQ hw
  exact ⟨w, rfl, more, b, hb⟩

end Stops

/-! ### Strings -/

namespace StringLiteral

variable {r s : List Char}

/-- A hexadecimal escape is refused where it begins, or after the first half of a pair. -/
lemma readUnicode_stops {start : List Char} (h : refused (readUnicode start s) = some r) :
    r = start ∨ Stops (fun w x => taken (readUnicode [] w) = some (x, [])) s r := by
  rw [readUnicode] at h
  split at h
  · cases h
    exact .inl rfl
  · rename_i high hdigits
    split_ifs at h with hhigh hlow
    · split at h
      · -- any second half would complete the pair
        cases h
        have hplain : (fourHexDigits? s).map Parsed.plain = some (high.value, high.rest) := by
          rw [hdigits]
          rfl
        obtain ⟨w, hs, hw⟩ := closes_fourHexDigits? s _ _ hplain
        dsimp only at hw
        refine .inr (.after "\\uDC00".toList (a := ofSurrogates high.value 0xDC00) hs ?_)
        have hpair : (lowSurrogate? "\\uDC00".toList).map Parsed.plain = some (0xDC00, []) := rfl
        rw [taken_readUnicode, hw, Option.bind_some, if_pos hhigh, hpair, Option.map_some]
      · cases h
    · cases h
      exact .inl rfl
    · cases h

lemma readEscape_stops {quote : Char} {start : List Char}
    (h : refused (readEscape quote start s) = some r) :
    r = start ∨ Stops (fun w x => taken (readEscape quote [] w) = some (x, [])) s r := by
  rw [readEscape.eq_def] at h
  split at h
  · cases h
    exact .inl rfl
  · rename_i c t
    split at h
    · cases h
    · rename_i hshort
      split_ifs at h with hu
      · subst hu
        obtain rfl | hstops := readUnicode_stops (refused_map h)
        · exact .inl rfl
        · refine .inr (hstops.within ['u'] rfl fun {w x} hw => ⟨x, ?_⟩)
          rw [List.singleton_append, taken_readEscape, hshort]
          exact hw
      · cases h
        exact .inl rfl

/-- The text after an opening quote is refused where a closing quote could stand, or within an
escape that could be completed. -/
lemma readBody_stops {quote : Char} (hq : quote = '\'' ∨ quote = '"')
    (h : refused (readBody quote s) = some r) :
    Stops (fun w x => taken (readBody quote w) = some (x, [])) s r := by
  have hclosed : taken (readBody quote [quote]) = some ([], []) := by simp [taken_readBody]
  induction hn : s.length using Nat.strongRecOn generalizing s with
  | _ n ih =>
    rw [readBody.eq_def] at h
    cases s with
    | nil =>
      cases h
      exact .here hclosed
    | cons c t =>
      dsimp only at h
      simp only [List.length_cons] at hn
      split_ifs at h with hquote hcontrol hescape
      · cases h
      · cases h
        exact .here hclosed
      · -- an escape, which may be cut off itself
        obtain h | ⟨x, hx, h⟩ := refused_bind h
        · obtain rfl | ⟨e, rfl, more, y, hy⟩ := readEscape_stops h
          · exact .here hclosed
          · obtain ⟨v, hv, hread⟩ := closes_readEscape hq [] _ _ _ hy
            rw [List.append_nil] at hv
            subst hv
            refine .after (w := c :: e) (more ++ [quote]) (a := [y]) rfl ?_
            rw [List.cons_append, taken_readBody, ← List.append_assoc]
            dsimp only at hread ⊢
            rw [if_neg hquote, if_neg hcontrol, if_pos hescape, hread, Option.bind_some, hclosed,
              Option.map_some]
        · have hlt := x.fits
          have hstops := ih x.rest.length (by omega) (refused_bind_pure h) rfl
          obtain ⟨v, ht, hread⟩ := closes_readEscape hq _ t _ _ (taken_of_eq_ok hx)
          refine hstops.within (c :: v) (congrArg (c :: ·) ht) fun {w xs} hw =>
            ⟨x.value :: xs, ?_⟩
          dsimp only at hread
          rw [List.cons_append, taken_readBody]
          dsimp only
          rw [if_neg hquote, if_neg hcontrol, if_pos hescape,
            taken_readEscape_start quote [] (c :: t), hread, Option.bind_some, hw,
            Option.map_some]
      · have hstops := ih t.length (by omega) (refused_bind_pure h) rfl
        refine hstops.within [c] rfl fun {w xs} hw => ⟨c :: xs, ?_⟩
        rw [List.singleton_append, taken_readBody]
        dsimp only
        rw [if_neg hquote, if_neg hcontrol, if_neg hescape, hw, Option.map_some]

lemma read_stops {c : Char} (hc : c = '\'' ∨ c = '"') (h : refused (read (c :: s)) = some r) :
    Stops Grammar.IsString (c :: s) r := by
  have hbody : refused (readBody c s) = some r := by
    rcases hc with rfl | rfl <;> exact refused_map h
  refine (readBody_stops hc hbody).within [c] rfl fun {w xs} hw => ⟨.ofList xs, ?_⟩
  rw [List.singleton_append, Grammar.IsString, taken_read, if_pos hc, hw,
    Option.map_some]

end StringLiteral

/-! ### Names, indices and slices -/

namespace Grammar

open Reading

variable {r s t : List Char}

lemma shorthand_stops (h : refused (shorthand s) = some r) : Stops IsShorthand s r := by
  rw [shorthand.eq_def] at h
  split at h
  · cases h
  · split at h
    · cases h
    · cases h
      exact .here .wildcard

/-- A part of a slice is refused where it should begin, or where it could be absent. -/
lemma slicePart_stops {colonEnds : Bool} (h : refused (slicePart colonEnds s) = some r) :
    r = s := by
  rw [slicePart] at h
  split_ifs at h
  · cases h
  · split at h
    · cases h
    · cases h
      rfl

lemma sliceStep_stops {start stop : Option Int} (h : refused (sliceStep start stop s) = some r) :
    Stops IsStep (skipBlanks s) r := by
  rw [sliceStep] at h
  split at h
  · rename_i u hu
    obtain rfl := slicePart_stops (refused_bind_pure h)
    obtain ⟨b, hb, heq⟩ := exists_blanks u
    have hstep : IsStep (':' :: b ++ []) 1 := .written hb .absent
    exact .behind (by rw [hu, List.append_nil, List.cons_append, ← heq]) hstep
  · cases h

/-- A slice is refused where one of its parts is malformed, which could be absent. -/
lemma sliceAfterColon_stops {start : Option Int} {v : List Char} (hv : IsBound v start)
    (h : refused (sliceAfterColon start t) = some r) : Stops IsSlice (v ++ ':' :: t) r := by
  rw [sliceAfterColon] at h
  obtain h | ⟨stop, hstop, h⟩ := refused_bind h
  · obtain rfl := slicePart_stops h
    obtain ⟨b, hb, heq⟩ := exists_blanks t
    have hslice : IsSlice (v ++ ':' :: b ++ [] ++ []) ⟨start, none, 1⟩ :=
      .intro hv hb .absent .absent
    exact .behind (by simpa using heq) hslice
  · obtain ⟨b, w, hb, ht, hw⟩ := slicePart_sound (taken_of_eq_ok hstop)
    refine (sliceStep_stops (refused_bind_pure h)).within (v ++ ':' :: b ++ w) (by simp [ht]) ?_
    exact fun hx => ⟨_, .intro hv hb hw hx⟩

lemma indexOrSlice_stops (h : refused (indexOrSlice s) = some r) : Stops IsSelector s r := by
  rw [indexOrSlice.eq_def] at h
  split at h
  · exact (sliceAfterColon_stops .absent (refused_map h)).imp fun h => ⟨_, .slice h⟩
  · split at h
    · cases h
      exact .here .wildcard
    · rename_i n hn
      obtain ⟨w, hs, hw⟩ := exists_isInt (congrArg (Option.map Parsed.plain) hn)
      split at h
      · rename_i t ht
        obtain ⟨b, hb, heq⟩ := exists_blanks n.rest
        rw [hs, heq, ht, ← List.append_assoc]
        exact (sliceAfterColon_stops (.int hw hb) (refused_map h)).imp fun h => ⟨_, .slice h⟩
      · cases h

end Grammar
end JsonQuery
