import LogTriage.Text
import Mathlib.Data.List.Basic

/-! # Code points of a text

A text that encodes a string gives back the code points of the string. So different strings have
different texts, and names may be compared as strings.
-/

namespace LogTriage.Text

set_option autoImplicit false

theorem isHigh_iff {u : CodeUnit} : isHigh u = true ↔ 0xD800 ≤ u.toNat ∧ u.toNat < 0xDC00 := by
  simp [isHigh, UInt16.le_iff_toNat_le, UInt16.lt_iff_toNat_lt]

theorem isLow_iff {u : CodeUnit} : isLow u = true ↔ 0xDC00 ≤ u.toNat ∧ u.toNat < 0xE000 := by
  simp [isLow, UInt16.le_iff_toNat_le, UInt16.lt_iff_toNat_lt]

theorem toNat_toUInt16 {n : Nat} (h : n < 0x10000) : n.toUInt16.toNat = n := by
  rw [Nat.toUInt16_eq, UInt16.toNat_ofNat']
  omega

theorem codePoints_unit {u : CodeUnit} (h : isHigh u = false) (rest : Text) :
    codePoints (u :: rest) = u.toNat :: codePoints rest := by
  cases rest with
  | nil => simp [codePoints]
  | cons v rest => simp [codePoints, h]

theorem codePoints_pair {u v : CodeUnit} {n : Nat} (hHigh : u.toNat = 0xD800 + n / 0x400)
    (hLow : v.toNat = 0xDC00 + n % 0x400) (hn : n < 0x100000) (rest : Text) :
    codePoints (u :: v :: rest) = (0x10000 + n) :: codePoints rest := by
  have hu : isHigh u = true := by
    rw [isHigh_iff]
    omega
  have hv : isLow v = true := by
    rw [isLow_iff]
    omega
  have hJoin : joinPair u v = 0x10000 + n := by
    unfold joinPair
    omega
  simp only [codePoints, hu, hv, hJoin, Bool.and_self, if_true]

theorem codePoints_ofCodePoint (c : Char) (rest : Text) :
    codePoints (ofCodePoint c.toNat ++ rest) = c.toNat :: codePoints rest := by
  have hValid : c.toNat < 0xD800 ∨ 0xDFFF < c.toNat ∧ c.toNat < 0x110000 := c.valid
  rw [ofCodePoint]
  split_ifs with hSmall
  · have hUnit := toNat_toUInt16 hSmall
    have hHigh : isHigh c.toNat.toUInt16 = false := by
      rw [Bool.eq_false_iff, Ne, isHigh_iff, hUnit]
      omega
    rw [List.singleton_append, codePoints_unit hHigh, hUnit]
  · have hBeyond : 0x10000 + (c.toNat - 0x10000) = c.toNat := by omega
    rw [List.cons_append, List.cons_append, List.nil_append]
    refine Eq.trans (codePoints_pair (toNat_toUInt16 ?_) (toNat_toUInt16 ?_) ?_ rest) ?_
    · omega
    · omega
    · omega
    · rw [hBeyond]

theorem codePoints_ofString (s : String) : codePoints (ofString s) = s.toList.map Char.toNat := by
  rw [ofString]
  induction s.toList with
  | nil => rfl
  | cons c cs ih => rw [List.flatMap_cons, codePoints_ofCodePoint, ih, List.map_cons]

theorem ofString_injective : Function.Injective ofString := by
  intro s t h
  have hPoints := congrArg codePoints h
  rw [codePoints_ofString, codePoints_ofString] at hPoints
  have hChars : Function.Injective Char.toNat := fun c d hEq => Char.toNat_inj.mp hEq
  exact String.ext (List.map_injective_iff.mpr hChars hPoints)

end LogTriage.Text
