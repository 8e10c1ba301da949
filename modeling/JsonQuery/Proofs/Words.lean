import JsonQuery.Program.SliceOpcode
import JsonQuery.Proofs.WellFormed
import Mathlib.Algebra.Ring.Int.Defs
import Mathlib.Tactic.Lemma
import Mathlib.Tactic.SplitIfs

/-!
Signed words of 64 bits. The integers of a running program are such words, and an operation
whose result no word holds halts it, as does a clamp whose bounds are in the wrong order. Where
neither happens, what is computed with words is what is computed with integers. Digits are read
into a word one by one, away from zero on the side of their sign, and halt where they leave it.
-/

namespace JsonQuery

/-- Why a computation with words halts. -/
inductive Halt where
  /-- A sum, a difference or a product that no word holds. -/
  | overflow
  /-- A clamp with its lower bound above the upper one. -/
  | disorder
  /-- An access outside of an array. -/
  | outside
  /-- A loop that never leaves its place. -/
  | endless
  deriving DecidableEq

lemma IsSafe.bounds {n : Int} (h : IsSafe n) : -2 ^ 53 < n ∧ n < 2 ^ 53 := by
  have : n.natAbs ≤ 2 ^ 53 - 1 := h
  omega

/-- Integers of safe magnitude are words. -/
lemma IsSafe.exists_toInt_eq {n : Int} (h : IsSafe n) : ∃ a : Int64, a.toInt = n := by
  have := h.bounds
  exact ⟨_, Int64.toInt_ofInt_of_le (by omega) (by omega)⟩

namespace Word

/-- The word of an integer, if it has one. -/
def exactly (n : Int) : Except Halt Int64 :=
  if -2 ^ 63 ≤ n ∧ n < 2 ^ 63 then .ok (.ofInt n) else .error .overflow

def add (a b : Int64) : Except Halt Int64 := exactly (a.toInt + b.toInt)

def sub (a b : Int64) : Except Halt Int64 := exactly (a.toInt - b.toInt)

def mul (a b : Int64) : Except Halt Int64 := exactly (a.toInt * b.toInt)

/-- The nearest word between two others, of which the second may not be below the first. -/
def clamp (low high a : Int64) : Except Halt Int64 :=
  if high < low then .error .disorder
  else .ok (if a < low then low else if high < a then high else a)

/-- A computation does not halt, and what it gives is the word of an integer. -/
def Gives (x : Except Halt Int64) (n : Int) : Prop := ∃ a, x = .ok a ∧ a.toInt = n

variable {a b low high : Int64} {n k l h : Int}

lemma exactly_eq_ok_iff : exactly n = .ok a ↔ a.toInt = n := by
  have := a.le_toInt
  have := a.toInt_lt
  rw [exactly]
  split_ifs with hn
  · rw [Except.ok.injEq, ← Int64.toInt_inj, Int64.toInt_ofInt_of_le (by omega) (by omega)]
    exact eq_comm
  · simp
    omega

lemma gives_exactly (hlow : -2 ^ 63 ≤ n) (hhigh : n < 2 ^ 63) : Gives (exactly n) n :=
  ⟨.ofInt n, if_pos ⟨hlow, hhigh⟩, Int64.toInt_ofInt_of_le (by omega) (by omega)⟩

lemma gives_ok (ha : a.toInt = n) : Gives (.ok a) n := ⟨a, rfl, ha⟩

lemma Gives.bind {x : Except Halt Int64} {f : Int64 → Except Halt Int64} (hx : Gives x n)
    (hf : ∀ a, a.toInt = n → Gives (f a) k) : Gives (x >>= f) k := by
  obtain ⟨a, rfl, ha⟩ := hx
  exact hf a ha

lemma gives_clamp (hlow : low.toInt = l) (hhigh : high.toInt = h) (ha : a.toInt = n)
    (hle : l ≤ h) : Gives (clamp low high a) (JsonQuery.clamp l h n) := by
  have hnot : ¬ high < low := by
    rw [Int64.lt_iff_toInt_lt]
    omega
  rw [clamp, if_neg hnot, JsonQuery.clamp]
  refine ⟨_, rfl, ?_⟩
  simp only [apply_ite Int64.toInt, Int64.lt_iff_toInt_lt]
  omega

lemma gives_min (ha : a.toInt = n) (hb : b.toInt = k) : Gives (.ok (min a b)) (min n k) := by
  have hmin : (min a b).toInt = if a ≤ b then a.toInt else b.toInt := apply_ite Int64.toInt _ a b
  refine gives_ok ?_
  simp only [hmin, Int64.le_iff_toInt_le]
  omega

/-! ### Digits -/

/-- A magnitude with a sign. -/
def signed (negative : Bool) (k : Nat) : Int := if negative then -k else k

/-- Away from zero, on the side of the sign. -/
def away (negative : Bool) (a b : Int64) : Except Halt Int64 := if negative then sub a b else add a b

/-- One more digit behind those that have been read. -/
def push (negative : Bool) (a : Int64) (c : Char) : Except Halt Int64 := do
  away negative (← mul a 10) (.ofNat (c.toNat - '0'.toNat))

/-- The word of a sign and digits. -/
def ofDigits (negative : Bool) (ds : List Char) : Except Halt Int64 := ds.foldlM (push negative) 0

/-- The word that a whole text is read as. -/
def ofText? (text : List Char) : Option Int64 :=
  let (negative, ds) := NumberToken.scanSign text
  if ds.isEmpty || !ds.all Char.isDigit then none else (ofDigits negative ds).toOption

section Digits

variable {negative : Bool} {a b : Int64} {c : Char} {k n : Nat}

@[simp] lemma signed_false (k : Nat) : signed false k = k := rfl

@[simp] lemma signed_true (k : Nat) : signed true k = -k := rfl

lemma away_eq_ok_iff {d : Int64} (ha : a.toInt = signed negative k) (hd : d.toInt = n) :
    away negative a d = .ok b ↔ b.toInt = signed negative (k + n) := by
  rw [away]
  cases negative with
  | false =>
    rw [if_neg Bool.false_ne_true, add, exactly_eq_ok_iff, ha, hd]
    rfl
  | true =>
    rw [if_pos rfl, sub, exactly_eq_ok_iff, ha, hd, signed_true, signed_true, Int.natCast_add,
      Int.neg_add, Int.sub_eq_add_neg]

lemma natAbs_signed (negative : Bool) (k : Nat) : (signed negative k).natAbs = k := by
  cases negative with
  | false => exact Int.natAbs_natCast k
  | true => rw [signed_true, Int.natAbs_neg, Int.natAbs_natCast]

/-- With a sign, what is nearer to zero than a word has a word. -/
lemma exists_toInt_eq_signed (hb : b.toInt = signed negative n) (hk : k ≤ n) :
    ∃ a : Int64, a.toInt = signed negative k := by
  have hlow := b.le_toInt
  have hhigh := b.toInt_lt
  have hrange : -2 ^ 63 ≤ signed negative k ∧ signed negative k < 2 ^ 63 := by
    cases negative <;> simp only [signed_false, signed_true] at * <;> omega
  exact ⟨_, Int64.toInt_ofInt_of_le hrange.1 hrange.2⟩

lemma toInt_digit (hc : c.isDigit = true) :
    (Int64.ofNat (c.toNat - '0'.toNat)).toInt = (c.toNat - '0'.toNat : Nat) := by
  have hrange : 48 ≤ c.toNat ∧ c.toNat ≤ 57 := Char.isDigit_iff_toNat.1 hc
  exact Int64.toInt_ofNat_of_lt (by omega)

lemma mul_ten_eq_ok_iff (ha : a.toInt = signed negative k) :
    mul a 10 = .ok b ↔ b.toInt = signed negative (10 * k) := by
  have hten : signed negative k * (10 : Int64).toInt = signed negative (10 * k) := by
    change signed negative k * 10 = _
    cases negative <;> simp only [signed_false, signed_true] <;> omega
  rw [mul, exactly_eq_ok_iff, ha, hten]

/-- A digit is pushed if the number that it makes has a word. -/
lemma push_eq_ok_iff (hc : c.isDigit = true) (ha : a.toInt = signed negative k) :
    push negative a c = .ok b ↔ b.toInt = signed negative (10 * k + (c.toNat - '0'.toNat)) := by
  rw [push]
  cases htens : mul a 10 with
  | ok tens => exact away_eq_ok_iff ((mul_ten_eq_ok_iff ha).1 htens) (toInt_digit hc)
  | error halt =>
    refine ⟨fun h => (nomatch h), fun h => ?_⟩
    obtain ⟨tens, hk⟩ := exists_toInt_eq_signed h (Nat.le_add_right (10 * k) _)
    rw [(mul_ten_eq_ok_iff ha).2 hk] at htens
    cases htens

lemma le_foldl (ds : List Char) (k : Nat) :
    k ≤ ds.foldl (fun n c => 10 * n + (c.toNat - '0'.toNat)) k := by
  induction ds generalizing k with
  | nil => exact Nat.le_refl k
  | cons c ds ih =>
    calc k ≤ 10 * k + (c.toNat - '0'.toNat) := by omega
      _ ≤ _ := ih _

/-- Digits are read one after the other as they are read at once: a number that has no word
before the last digit has none after it. -/
lemma foldlM_push_eq_ok_iff {ds : List Char} (hds : ∀ c ∈ ds, c.isDigit = true)
    (ha : a.toInt = signed negative k) : ds.foldlM (push negative) a = .ok b ↔
      b.toInt = signed negative (ds.foldl (fun n c => 10 * n + (c.toNat - '0'.toNat)) k) := by
  induction ds generalizing a k with
  | nil =>
    rw [List.foldl_nil, ← ha, Int64.toInt_inj]
    exact ⟨fun h => (Except.ok.inj h).symm, fun h => h ▸ rfl⟩
  | cons c ds ih =>
    obtain ⟨hc, hds⟩ := List.forall_mem_cons.1 hds
    rw [List.foldlM_cons, List.foldl_cons]
    cases hpush : push negative a c with
    | ok next => exact ih hds ((push_eq_ok_iff hc ha).1 hpush)
    | error halt =>
      refine ⟨fun h => (nomatch h), fun h => ?_⟩
      obtain ⟨next, hnext⟩ := exists_toInt_eq_signed h (le_foldl ds _)
      rw [(push_eq_ok_iff hc ha).2 hnext] at hpush
      cases hpush

end Digits

end Word
end JsonQuery
