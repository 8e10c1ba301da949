import JsonQuery.Json.Text
import JsonQuery.Proofs.Strings

/-!
What string literals spell. A character is written as itself, by a short escape or by its number
in hexadecimal, and a number beyond four digits by its surrogates. The literals of a text are
these spellings of its characters, one after the other, between two quotes: all of them are
read, and nothing else is. A literal ends at its closing quote, so what follows it has no part
in it at all.
-/

namespace JsonQuery.StringLiteral

/-- A reader of tokens that nothing can make longer. -/
def Closes {α : Type} (read : List Char → Option (α × List Char)) : Prop :=
  ∀ s a rest, read s = some (a, rest) → ∃ w, s = w ++ rest ∧ ∀ t, read (w ++ t) = some (a, t)

lemma Closes.cuts {α : Type} {read : List Char → Option (α × List Char)} (h : Closes read) :
    Cuts read (fun _ => true) (fun _ => false) := by
  intro s a rest hs
  obtain ⟨w, hw, hread⟩ := h s a rest hs
  exact ⟨w, hw, fun _ _ => rfl, fun t _ => hread t⟩

/-- What is read is known by the text that is taken, whatever follows it. -/
lemma closes_of_iff {α : Type} {read : List Char → Option (α × List Char)}
    {P : α → List Char → Prop}
    (h : ∀ {s a rest}, read s = some (a, rest) ↔ ∃ w, P a w ∧ s = w ++ rest) : Closes read := by
  intro s a rest hs
  obtain ⟨w, hw, rfl⟩ := h.1 hs
  exact ⟨w, rfl, fun t => h.2 ⟨w, hw, rfl⟩⟩

/-! ### Spellings -/

/-- A hexadecimal digit in lower or upper case. -/
def IsHexDigit (c : Char) (n : Nat) : Prop :=
  n < 16 ∧ (c = n.digitChar ∨ c = n.digitChar.toUpper)

instance (c : Char) (n : Nat) : Decidable (IsHexDigit c n) := inferInstanceAs (Decidable (_ ∧ _))

/-- Four hexadecimal digits. -/
inductive IsHexWord : List Char → Nat → Prop
  | intro {a b c d : Char} {i j k l : Nat} (ha : IsHexDigit a i) (hb : IsHexDigit b j)
    (hc : IsHexDigit c k) (hd : IsHexDigit d l) :
    IsHexWord [a, b, c, d] (i * 0x1000 + j * 0x100 + k * 0x10 + l)

/-- The letters of short escapes, and what they stand for. -/
def shortEscapes (quote : Char) : List (Char × Char) :=
  [('\\', '\\'), ('/', '/'), (quote, quote), ('b', '\x08'), ('f', '\x0c'), ('n', '\n'),
    ('r', '\r'), ('t', '\t')]

/-- What may follow `\u` for a character: its number, or the two surrogates of it. -/
inductive IsNumbered (c : Char) : List Char → Prop
  | unit {w : List Char} (h : IsHexWord w c.toNat) : IsNumbered c w
  | pair {v w : List Char} (hlarge : 0x10000 ≤ c.toNat)
    (hv : IsHexWord v (0xD800 + (c.toNat - 0x10000) / 0x400))
    (hw : IsHexWord w (0xDC00 + (c.toNat - 0x10000) % 0x400)) :
    IsNumbered c (v ++ '\\' :: 'u' :: w)

/-- The ways to write a character between quotes. -/
inductive Spells (quote : Char) : List Char → Char → Prop
  | itself {c : Char} (hprintable : 0x20 ≤ c.toNat) (hquote : c ≠ quote) (hback : c ≠ '\\') :
    Spells quote [c] c
  | short {e c : Char} (h : (e, c) ∈ shortEscapes quote) : Spells quote ['\\', e] c
  | numbered {w : List Char} {c : Char} (h : IsNumbered c w) : Spells quote ('\\' :: 'u' :: w) c

/-- The ways to write a text between quotes, character by character. -/
inductive SpellsAll (quote : Char) : List Char → List Char → Prop
  | nil : SpellsAll quote [] []
  | cons {v w : List Char} {c : Char} {cs : List Char} (hv : Spells quote v c)
    (hw : SpellsAll quote w cs) : SpellsAll quote (v ++ w) (c :: cs)

/-! ### Hexadecimal numbers -/

lemma toNat_lt_of_hexValue? {c : Char} {n : Nat} (h : hexValue? c = some n) : c.toNat < 0x80 := by
  have hle {d : Char} (h : c ≤ d) : c.toNat ≤ d.toNat := h
  unfold hexValue? at h
  split_ifs at h with hdigit hlower hupper
  · rw [Char.isDigit, Bool.and_eq_true, decide_eq_true_eq, decide_eq_true_eq] at hdigit
    exact (hle (d := '9') hdigit.2).trans_lt (by decide)
  · exact (hle hlower.2).trans_lt (by decide)
  · exact (hle hupper.2).trans_lt (by decide)

lemma hexValue?_digitChar {n : Nat} (h : n < 16) : hexValue? n.digitChar = some n := by
  revert n
  decide

lemma hexValue?_eq_some_iff {c : Char} {n : Nat} : hexValue? c = some n ↔ IsHexDigit c n := by
  constructor
  · intro h
    have hascii : ∀ k < 0x80, ∀ n ∈ hexValue? (.ofNat k), IsHexDigit (.ofNat k) n := by decide
    simpa using hascii c.toNat (toNat_lt_of_hexValue? h) n (by simpa using h)
  · rintro ⟨hn, rfl | rfl⟩
    · exact hexValue?_digitChar hn
    · revert n
      decide

lemma IsHexWord.lt {w : List Char} {n : Nat} (h : IsHexWord w n) : n < 0x10000 := by
  obtain ⟨⟨hi, -⟩, ⟨hj, -⟩, ⟨hk, -⟩, ⟨hl, -⟩⟩ := h
  omega

lemma fourHexDigits?_eq_some_iff {s rest : List Char} {n : Nat} :
    (fourHexDigits? s).map Parsed.plain = some (n, rest) ↔ ∃ w, IsHexWord w n ∧ s = w ++ rest := by
  constructor
  · intro h
    unfold fourHexDigits? at h
    split at h
    · rename_i a b c d s
      split at h
      · rename_i i j k l ha hb hc hd
        cases h
        refine ⟨[a, b, c, d], ?_, rfl⟩
        rw [show ((i * 16 + j) * 16 + k) * 16 + l = i * 0x1000 + j * 0x100 + k * 0x10 + l by omega]
        exact .intro (hexValue?_eq_some_iff.1 ha) (hexValue?_eq_some_iff.1 hb)
          (hexValue?_eq_some_iff.1 hc) (hexValue?_eq_some_iff.1 hd)
      · cases h
    · cases h
  · rintro ⟨w, ⟨ha, hb, hc, hd⟩, rfl⟩
    simp only [List.cons_append, List.nil_append, fourHexDigits?, hexValue?_eq_some_iff.2 ha,
      hexValue?_eq_some_iff.2 hb, hexValue?_eq_some_iff.2 hc, hexValue?_eq_some_iff.2 hd,
      Option.map_some, Parsed.plain, Option.some.injEq, Prod.mk.injEq, and_true]
    omega

lemma closes_fourHexDigits? : Closes fun s => (fourHexDigits? s).map Parsed.plain :=
  closes_of_iff fourHexDigits?_eq_some_iff

/-! ### Surrogates -/

lemma isHighSurrogate_iff {n : Nat} : isHighSurrogate n = true ↔ 0xD800 ≤ n ∧ n ≤ 0xDBFF := by
  simp [isHighSurrogate]

lemma isLowSurrogate_iff {n : Nat} : isLowSurrogate n = true ↔ 0xDC00 ≤ n ∧ n ≤ 0xDFFF := by
  simp [isLowSurrogate]

/-- No character has the number of a surrogate. -/
lemma not_surrogate (c : Char) :
    isHighSurrogate c.toNat = false ∧ isLowSurrogate c.toNat = false := by
  have hvalid : c.toNat < 0xD800 ∨ 0xDFFF < c.toNat ∧ c.toNat < 0x110000 := c.valid
  constructor
  · rw [Bool.eq_false_iff, ne_eq, isHighSurrogate_iff]
    omega
  · rw [Bool.eq_false_iff, ne_eq, isLowSurrogate_iff]
    omega

lemma toNat_ofNat_eq {n : Nat} (h : n < 0xD800 ∨ 0xDFFF < n ∧ n < 0x110000) :
    (Char.ofNat n).toNat = n := by
  rw [Char.ofNat, dif_pos h]
  rfl

lemma ofSurrogates_eq_iff {high low : Nat} (hhigh : isHighSurrogate high = true)
    (hlow : isLowSurrogate low = true) {c : Char} :
    ofSurrogates high low = c ↔ 0x10000 ≤ c.toNat ∧
      high = 0xD800 + (c.toNat - 0x10000) / 0x400 ∧
      low = 0xDC00 + (c.toNat - 0x10000) % 0x400 := by
  rw [isHighSurrogate_iff] at hhigh
  rw [isLowSurrogate_iff] at hlow
  have hvalue : (ofSurrogates high low).toNat =
      0x10000 + (high - 0xD800) * 0x400 + (low - 0xDC00) := by
    rw [ofSurrogates, toNat_ofNat_eq]
    omega
  rw [← Char.toNat_inj, hvalue]
  omega

/-- The surrogates of a character beyond four digits. -/
lemma surrogates_of_large {c : Char} (h : 0x10000 ≤ c.toNat) :
    isHighSurrogate (0xD800 + (c.toNat - 0x10000) / 0x400) = true ∧
      isLowSurrogate (0xDC00 + (c.toNat - 0x10000) % 0x400) = true := by
  have hvalid : c.toNat < 0xD800 ∨ 0xDFFF < c.toNat ∧ c.toNat < 0x110000 := c.valid
  rw [isHighSurrogate_iff, isLowSurrogate_iff]
  omega

lemma lowSurrogate?_eq_some_iff {s rest : List Char} {n : Nat} :
    (lowSurrogate? s).map Parsed.plain = some (n, rest) ↔
      isLowSurrogate n = true ∧ ∃ w, IsHexWord w n ∧ s = '\\' :: 'u' :: w ++ rest := by
  constructor
  · intro h
    have hs : ∃ t, s = '\\' :: 'u' :: t := by
      unfold lowSurrogate? at h
      split at h
      · exact ⟨_, rfl⟩
      · cases h
    obtain ⟨t, rfl⟩ := hs
    rw [lowSurrogate?_plain] at h
    obtain ⟨p, hp, heq⟩ := Option.bind_eq_some_iff.1 h
    split_ifs at heq with hlow
    cases heq
    obtain ⟨w, hw, rfl⟩ := fourHexDigits?_eq_some_iff.1 hp
    exact ⟨hlow, w, hw, rfl⟩
  · rintro ⟨hlow, w, hw, rfl⟩
    rw [List.cons_append, List.cons_append, lowSurrogate?_plain,
      fourHexDigits?_eq_some_iff.2 ⟨w, hw, rfl⟩]
    exact if_pos hlow

/-! ### Escapes -/

lemma taken_readUnicode_eq_some_iff {start s rest : List Char} {c : Char} :
    taken (readUnicode start s) = some (c, rest) ↔ ∃ w, IsNumbered c w ∧ s = w ++ rest := by
  rw [taken_readUnicode]
  constructor
  · intro h
    obtain ⟨⟨high, t⟩, hword, hcases⟩ := Option.bind_eq_some_iff.1 h
    obtain ⟨v, hv, rfl⟩ := fourHexDigits?_eq_some_iff.1 hword
    dsimp only at hcases
    split_ifs at hcases with hhigh hlow
    · -- a pair of surrogates
      obtain ⟨⟨low, t'⟩, hp, heq⟩ := Option.map_eq_some_iff.1 hcases
      obtain ⟨hlow, w, hw, rfl⟩ := lowSurrogate?_eq_some_iff.1 hp
      obtain ⟨hc, rfl⟩ := Prod.mk.inj heq
      obtain ⟨hlarge, hfirst, hsecond⟩ := (ofSurrogates_eq_iff hhigh hlow).1 hc
      rw [hfirst] at hv
      rw [hsecond] at hw
      exact ⟨_, .pair hlarge hv hw, by simp⟩
    · obtain ⟨rfl, rfl⟩ := Prod.mk.inj (Option.some.inj hcases)
      have hlt := hv.lt
      rw [isHighSurrogate_iff] at hhigh
      rw [isLowSurrogate_iff] at hlow
      exact ⟨v, .unit (by rwa [toNat_ofNat_eq (by omega)]), rfl⟩
  · rintro ⟨w, hw, rfl⟩
    cases hw with
    | unit hw =>
      obtain ⟨hhigh, hlow⟩ := not_surrogate c
      rw [fourHexDigits?_eq_some_iff.2 ⟨w, hw, rfl⟩]
      simp [hhigh, hlow]
    | @pair v w hlarge hv hw =>
      obtain ⟨hhigh, hlow⟩ := surrogates_of_large hlarge
      rw [fourHexDigits?_eq_some_iff.2 ⟨v, hv, List.append_assoc _ _ _⟩, Option.bind_some,
        if_pos hhigh, lowSurrogate?_eq_some_iff.2 ⟨hlow, w, hw, rfl⟩, Option.map_some,
        (ofSurrogates_eq_iff hhigh hlow).2 ⟨hlarge, rfl, rfl⟩]

section Quote

variable {quote : Char} (hquote : quote = '\'' ∨ quote = '"')

include hquote

lemma shortEscape?_eq_some_iff {e c : Char} :
    shortEscape? quote e = some c ↔ (e, c) ∈ shortEscapes quote := by
  constructor
  · intro h
    unfold shortEscape? at h
    split_ifs at h with h1 h2 h3 h4 h5 h6
    · rcases h1 with rfl | rfl | rfl <;> cases h <;> simp [shortEscapes]
    all_goals subst e; cases h; simp [shortEscapes]
  · intro h
    simp only [shortEscapes, List.mem_cons, Prod.mk.injEq, List.not_mem_nil, or_false] at h
    rcases hquote with rfl | rfl <;>
      rcases h with ⟨rfl, rfl⟩ | ⟨rfl, rfl⟩ | ⟨rfl, rfl⟩ | ⟨rfl, rfl⟩ | ⟨rfl, rfl⟩ | ⟨rfl, rfl⟩ |
        ⟨rfl, rfl⟩ | ⟨rfl, rfl⟩ <;> rfl

lemma taken_readEscape_eq_some_iff {start s rest : List Char} {c : Char} :
    taken (readEscape quote start s) = some (c, rest) ↔
      ∃ w, Spells quote ('\\' :: w) c ∧ s = w ++ rest := by
  constructor
  · intro h
    cases s with
    | nil => cases h
    | cons e s =>
      rw [taken_readEscape] at h
      cases hshort : shortEscape? quote e with
      | some x =>
        rw [hshort] at h
        cases h
        exact ⟨[e], .short ((shortEscape?_eq_some_iff hquote).1 hshort), rfl⟩
      | none =>
        rw [hshort] at h
        dsimp only at h
        split_ifs at h with hu
        obtain ⟨w, hw, rfl⟩ := taken_readUnicode_eq_some_iff.1 h
        exact ⟨'u' :: w, .numbered hw, by rw [hu]; rfl⟩
  · rintro ⟨w, hw, rfl⟩
    cases hw with
    | itself _ _ hback => exact absurd rfl hback
    | short h =>
      rw [List.cons_append, List.nil_append, taken_readEscape,
        (shortEscape?_eq_some_iff hquote).2 h]
    | @numbered w _ h =>
      have hu : shortEscape? quote 'u' = none := by rcases hquote with rfl | rfl <;> rfl
      rw [List.cons_append, taken_readEscape, hu]
      exact (if_pos rfl).trans (taken_readUnicode_eq_some_iff.2 ⟨w, h, rfl⟩)

lemma closes_readEscape (start : List Char) : Closes fun s => taken (readEscape quote start s) :=
  closes_of_iff (taken_readEscape_eq_some_iff hquote)

/-! ### Texts -/

/-- The spelling of a character is read as the character. -/
lemma Spells.taken_readBody {v : List Char} {c : Char} (h : Spells quote v c) (t : List Char) :
    taken (readBody quote (v ++ t)) =
      (taken (readBody quote t)).map fun more => (c :: more.1, more.2) := by
  by_cases hescape : ∃ w, v = '\\' :: w
  · obtain ⟨w, rfl⟩ := hescape
    have hback : '\\' ≠ quote := by rcases hquote with rfl | rfl <;> decide
    have hcontrol : ¬('\\' : Char).toNat < 0x20 := by decide
    rw [List.cons_append, StringLiteral.taken_readBody]
    simp only [if_neg hback, if_neg hcontrol, if_true]
    rw [(taken_readEscape_eq_some_iff hquote).2 ⟨w, h, rfl⟩, Option.bind_some]
  · cases h with
    | itself hprintable hne hback =>
      rw [List.singleton_append, StringLiteral.taken_readBody]
      simp only [if_neg hne, if_neg hprintable.not_gt, if_neg hback]
    | short => exact absurd ⟨_, rfl⟩ hescape
    | numbered => exact absurd ⟨_, rfl⟩ hescape

lemma SpellsAll.taken_readBody {body cs : List Char} (h : SpellsAll quote body cs)
    (rest : List Char) : taken (readBody quote (body ++ quote :: rest)) = some (cs, rest) := by
  induction h with
  | nil => rw [List.nil_append, StringLiteral.taken_readBody]; exact if_pos rfl
  | cons hv _ ih => rw [List.append_assoc, hv.taken_readBody hquote, ih]; rfl

/-- What was read as characters are spellings of them. -/
lemma spellsAll_of_taken {s rest cs : List Char}
    (h : taken (readBody quote s) = some (cs, rest)) :
    ∃ body, SpellsAll quote body cs ∧ s = body ++ quote :: rest := by
  -- by length, since an escape takes several characters at once
  induction hn : s.length using Nat.strongRecOn generalizing s cs with
  | _ n ih =>
    rw [StringLiteral.taken_readBody] at h
    cases s with
    | nil => cases h
    | cons c s =>
      rw [List.length_cons] at hn
      dsimp only at h
      split_ifs at h with hclose hcontrol hback
      · cases h
        exact ⟨[], .nil, by rw [hclose]; rfl⟩
      · obtain ⟨⟨x, t⟩, hx, hmore⟩ := Option.bind_eq_some_iff.1 h
        obtain ⟨⟨xs, t'⟩, hxs, heq⟩ := Option.map_eq_some_iff.1 hmore
        cases heq
        obtain ⟨w, hw, rfl⟩ := (taken_readEscape_eq_some_iff hquote).1 hx
        obtain ⟨body, hbody, rfl⟩ := ih t.length (by simp at hn; omega) hxs rfl
        exact ⟨_, .cons hw hbody, by simp [hback]⟩
      · obtain ⟨⟨xs, t⟩, hxs, heq⟩ := Option.map_eq_some_iff.1 h
        cases heq
        obtain ⟨body, hbody, rfl⟩ := ih s.length (by omega) hxs rfl
        exact ⟨_, .cons (.itself (not_lt.1 hcontrol) hclose hback) hbody, rfl⟩

end Quote

lemma taken_read_eq_some_iff {text rest : List Char} {s : String} :
    taken (read text) = some (s, rest) ↔ ∃ quote body, (quote = '\'' ∨ quote = '"') ∧
      SpellsAll quote body s.toList ∧ text = quote :: body ++ quote :: rest := by
  constructor
  · intro h
    cases text with
    | nil => cases h
    | cons quote t =>
      rw [taken_read] at h
      split_ifs at h with hquote
      obtain ⟨⟨cs, t'⟩, hcs, heq⟩ := Option.map_eq_some_iff.1 h
      cases heq
      obtain ⟨body, hbody, rfl⟩ := spellsAll_of_taken hquote hcs
      exact ⟨quote, body, hquote, by simpa using hbody, rfl⟩
  · rintro ⟨quote, body, hquote, hbody, rfl⟩
    rw [List.cons_append, taken_read, if_pos hquote, hbody.taken_readBody hquote,
      Option.map_some, String.ofList_toList]

lemma closes_read : Closes fun s => taken (read s) := by
  intro text s rest h
  obtain ⟨quote, body, hquote, hbody, rfl⟩ := taken_read_eq_some_iff.1 h
  refine ⟨quote :: body ++ [quote], by simp, fun t => ?_⟩
  exact taken_read_eq_some_iff.2 ⟨quote, body, hquote, hbody, by simp⟩

/-- **String literals.** A text begins with a literal exactly if it begins with spellings of
characters between two quotes; the literal is read as these characters, and what follows the
closing quote is left. -/
theorem read_eq_ok_iff (text : List Char) (s : String) (rest : List Char) :
    (∃ h, read text = .ok ⟨s, rest, h⟩) ↔ ∃ quote body, (quote = '\'' ∨ quote = '"') ∧
      SpellsAll quote body s.toList ∧ text = quote :: body ++ quote :: rest := by
  rw [← taken_eq_some_iff, taken_read_eq_some_iff]

/-! ### Quoting -/

/-- The control characters, by their numbers. -/
lemma spells_control (quote : Char) {c : Char} (h : c.toNat < 0x20) :
    Spells quote ['\\', 'u', '0', '0', Nat.digitChar (c.toNat / 16),
      Nat.digitChar (c.toNat % 16)] c := by
  have hzero : IsHexDigit '0' 0 := by decide
  have hword := IsHexWord.intro hzero hzero
    ⟨show c.toNat / 16 < 16 by omega, .inl rfl⟩ ⟨show c.toNat % 16 < 16 by omega, .inl rfl⟩
  rw [show 0 * 0x1000 + 0 * 0x100 + c.toNat / 16 * 0x10 + c.toNat % 16 = c.toNat by omega] at hword
  exact .numbered (.unit hword)

/-- The spelling with an escape only where there has to be one, and a short one if possible. -/
def plainest (quote c : Char) : List Char :=
  if c = quote then ['\\', quote]
  else if c = '\\' then ['\\', '\\']
  else if c = '\x08' then ['\\', 'b']
  else if c = '\x0c' then ['\\', 'f']
  else if c = '\n' then ['\\', 'n']
  else if c = '\r' then ['\\', 'r']
  else if c = '\t' then ['\\', 't']
  else if c.toNat < 0x20 then
    ['\\', 'u', '0', '0', Nat.digitChar (c.toNat / 16), Nat.digitChar (c.toNat % 16)]
  else [c]

lemma spells_plainest (quote c : Char) : Spells quote (plainest quote c) c := by
  unfold plainest
  split_ifs with hquote hback h1 h2 h3 h4 h5 hcontrol
  · exact .short (by simp [shortEscapes, hquote])
  · exact .short (by simp [shortEscapes, hback])
  · exact .short (by simp [shortEscapes, h1])
  · exact .short (by simp [shortEscapes, h2])
  · exact .short (by simp [shortEscapes, h3])
  · exact .short (by simp [shortEscapes, h4])
  · exact .short (by simp [shortEscapes, h5])
  · exact spells_control quote hcontrol
  · exact .itself (not_lt.1 hcontrol) hquote hback

lemma spellsAll_plainest (quote : Char) (cs : List Char) :
    SpellsAll quote (cs.flatMap (plainest quote)) cs := by
  induction cs with
  | nil => exact .nil
  | cons c cs ih => exact .cons (spells_plainest quote c) ih

lemma isString_plainest {quote : Char} (hquote : quote = '\'' ∨ quote = '"') (s : String) :
    Grammar.IsString (quote :: s.toList.flatMap (plainest quote) ++ [quote]) s := by
  exact taken_read_eq_some_iff.2 ⟨quote, _, hquote, spellsAll_plainest quote s.toList, rfl⟩

/-- **Quoted strings are read back**, with single quotes -/
theorem isString_quoted (s : String) : Grammar.IsString (quoted s) s :=
  isString_plainest (.inl rfl) s

/-- and with double quotes. -/
theorem isString_jsonQuoted (s : String) : Grammar.IsString (jsonQuoted s) s :=
  isString_plainest (.inr rfl) s

end JsonQuery.StringLiteral
