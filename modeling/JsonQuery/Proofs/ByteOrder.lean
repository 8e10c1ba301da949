import JsonQuery.Text.Character
import Mathlib.Tactic.Lemma
import Mathlib.Tactic.SplitIfs

/-!
The order of strings. Strings compare character by character, which is the order of their bytes
in UTF-8: the first byte of a character tells how many there are, and further bytes hold the
digits of its number to the base 64.
-/

namespace JsonQuery

/-- The bytes of a string in UTF-8. -/
def utf8Bytes (s : String) : List UInt8 := s.toUTF8.data.toList

lemma utf8Bytes_eq (s : String) : utf8Bytes s = s.toList.flatMap String.utf8EncodeChar := by
  rw [utf8Bytes, String.toUTF8_eq_toByteArray, ← String.utf8Encode_toList, List.utf8Encode,
    List.data_toByteArray, List.toList_toArray]

/-- Of two numbers, the smaller one has the smaller digits to the base 64. -/
lemma digits_lt {v w : Nat} (h : v < w) :
    v / 262144 < w / 262144 ∨ v / 262144 = w / 262144 ∧
      (v / 4096 % 64 < w / 4096 % 64 ∨ v / 4096 % 64 = w / 4096 % 64 ∧
        (v / 64 % 64 < w / 64 % 64 ∨ v / 64 % 64 = w / 64 % 64 ∧ v % 64 < w % 64)) := by
  have hv : v / 262144 = v / 64 / 64 / 64 ∧ v / 4096 = v / 64 / 64 := by omega
  have hw : w / 262144 = w / 64 / 64 / 64 ∧ w / 4096 = w / 64 / 64 := by omega
  rw [hv.1, hv.2, hw.1, hw.2]
  omega

/-- The bytes of two characters compare as the characters do, whatever follows them. -/
lemma utf8EncodeChar_append_lt {c d : Char} (h : c < d) (s t : List UInt8) :
    String.utf8EncodeChar c ++ s < String.utf8EncodeChar d ++ t := by
  have hlt : c.val.toNat < d.val.toNat := h
  have hmax : d.val.toNat < 0x110000 := by
    rcases d.valid with hd | ⟨-, hd⟩ <;> omega
  have hdigits := digits_lt hlt
  have hdigit : ∀ n : Nat, n % 64 < 64 := fun n => Nat.mod_lt n (by decide)
  simp only [String.utf8EncodeChar]
  generalize c.val.toNat = v at *
  generalize d.val.toNat = w at *
  -- one case for each pair of lengths that are in order
  split_ifs <;>
    simp (disch := omega) only [List.cons_append, List.nil_append, List.cons_lt_cons_iff,
      UInt8.lt_iff_toNat_lt, ← UInt8.toNat_inj, UInt8.toNat_ofNat', Nat.mod_eq_of_lt] <;>
    omega

lemma flatMap_utf8EncodeChar_lt {s t : List Char} (h : s < t) :
    s.flatMap String.utf8EncodeChar < t.flatMap String.utf8EncodeChar := by
  induction h with
  | @nil d t =>
    rw [List.flatMap_nil, List.flatMap_cons]
    obtain ⟨b, bs, hd⟩ := List.exists_cons_of_ne_nil (String.utf8EncodeChar_ne_nil (c := d))
    rw [hd]
    exact List.nil_lt_cons _ _
  | rel hcd => exact utf8EncodeChar_append_lt hcd _ _
  | cons _ ih => exact List.append_left_lt ih

/-- **Strings are ordered by their bytes.** -/
theorem utf8Bytes_lt_iff {s t : String} : utf8Bytes s < utf8Bytes t ↔ s < t := by
  rw [utf8Bytes_eq, utf8Bytes_eq]
  refine ⟨fun h => Decidable.byContradiction fun hle => ?_, flatMap_utf8EncodeChar_lt⟩
  by_cases hlt : t < s
  · exact List.lt_asymm h (flatMap_utf8EncodeChar_lt hlt)
  · obtain rfl := String.le_antisymm hlt hle
    exact List.lt_irrefl _ h

end JsonQuery
