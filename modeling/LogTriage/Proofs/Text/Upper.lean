import LogTriage.Proofs.Text.CodePoints
import LogTriage.Proofs.Unicode.UpperCase
import LogTriage.Text.Upper
import Mathlib.Data.List.Infix

/-! # Texts in upper case

A text without stray characters is put into upper case unit by unit, once its variant letters are spelled
out. A stray character leaves a trace that no name has.
-/

namespace LogTriage.Text

set_option autoImplicit false

open Unicode

/-- A variant letter in the letters of ASCII that it stands for. -/
def spelledUnit (u : CodeUnit) : Text :=
  match u.toNat with
  | 0x131 => [0x49]
  | 0x17F => [0x53]
  | 0xDF => [0x53, 0x53]
  | 0xFB05 => [0x53, 0x54]
  | 0xFB06 => [0x53, 0x54]
  | _ => [u]

def spelledOut (t : Text) : Text := t.flatMap spelledUnit

def capital (u : CodeUnit) : CodeUnit := if 0x61 ≤ u ∧ u ≤ 0x7A then u - 0x20 else u

variable {t : Text} {u : CodeUnit}

theorem spelledUnit_eq_self (h : u.toNat ∉ letterVariants) : spelledUnit u = [u] := by
  unfold spelledUnit
  split <;> simp_all [letterVariants]

theorem toNat_capital (u : CodeUnit) :
    (capital u).toNat = if 0x61 ≤ u.toNat ∧ u.toNat ≤ 0x7A then u.toNat - 0x20 else u.toNat := by
  rw [capital]
  simp only [UInt16.le_iff_toNat_le, UInt16.reduceToNat]
  split_ifs with hSmall
  · apply UInt16.toNat_sub_of_le
    simp only [UInt16.le_iff_toNat_le, UInt16.reduceToNat]
    omega
  · rfl

theorem capital_eq_self (h : ¬ (0x61 ≤ u.toNat ∧ u.toNat ≤ 0x7A)) : capital u = u := by
  rw [← UInt16.toNat_inj, toNat_capital, if_neg h]

/-- A capital letter of ASCII, written in either case. -/
def InEitherCase (letter u : CodeUnit) : Prop := u = letter ∨ u = letter + 0x20

instance : DecidableRel InEitherCase := fun _ _ => inferInstanceAs (Decidable (_ ∨ _))

def IsCapital (u : CodeUnit) : Prop := 0x41 ≤ u.toNat ∧ u.toNat ≤ 0x5A

instance : DecidablePred IsCapital := fun _ => inferInstanceAs (Decidable (_ ∧ _))

theorem capital_eq_iff {letter : CodeUnit} (h : IsCapital letter) :
    capital u = letter ↔ InEitherCase letter u := by
  obtain ⟨hFirst, hLast⟩ := h
  have hSmall : (letter + 0x20).toNat = letter.toNat + 0x20 := by
    simp only [UInt16.toNat_add, UInt16.reduceToNat]
    omega
  rw [InEitherCase, ← UInt16.toNat_inj, ← UInt16.toNat_inj, ← UInt16.toNat_inj, hSmall, toNat_capital]
  split_ifs <;> omega

theorem ofCodePoint_unit (u : CodeUnit) : ofCodePoint u.toNat = [u] := by
  have hUnit : u.toNat < 0x10000 := u.toNat_lt
  rw [ofCodePoint, if_pos hUnit]
  simp

theorem upperPoint_unit (h : ¬ Stray u.toNat) : upperPoint u.toNat = (spelledUnit u).map capital := by
  -- What is not stray is in ASCII, a blank or a variant letter.
  by_cases hAscii : u.toNat < 0x80
  · have hAll : ∀ n < 0x80, upperPoint n = (spelledUnit n.toUInt16).map capital := by decide
    simpa using hAll u.toNat hAscii
  · by_cases hBlank : isBlank u.toNat = true
    · have hDisjoint : ∀ b ∈ blanks, b ∉ letterVariants := by decide
      have hSelf := spelledUnit_eq_self (hDisjoint _ (isBlank_iff_mem_blanks.mp hBlank))
      rw [upperPoint, form_of_blank hBlank, hSelf, List.flatMap_singleton, ofCodePoint_unit,
        List.map_singleton, capital_eq_self (by omega)]
    · have hForeign : Foreign u.toNat := ⟨by omega, by simpa using hBlank⟩
      have hVariant : u.toNat ∈ letterVariants := by
        by_contra hNot
        exact h ⟨hForeign, hNot⟩
      have hAll : ∀ n ∈ letterVariants, upperPoint n = (spelledUnit n.toUInt16).map capital := by decide
      simpa using hAll u.toNat hVariant

theorem upper_of_not_stray (h : ∀ u ∈ t, ¬ Stray u.toNat) : upper t = (spelledOut t).map capital := by
  induction t with
  | nil => rfl
  | cons u rest ih =>
    rw [List.forall_mem_cons] at h
    have hHigh : isHigh u = false := by
      rw [Bool.eq_false_iff, Ne, isHigh_iff]
      intro hRange
      exact h.1 (stray_of_surrogate (by omega))
    rw [upper, codePoints_unit hHigh, List.flatMap_cons, upperPoint_unit h.1, spelledOut,
      List.flatMap_cons, List.map_append]
    exact congrArg _ (ih h.2)

/-- A stray unit is, or is part of, a stray code point. -/
theorem exists_stray_codePoint (hu : u ∈ t) (h : Stray u.toNat) : ∃ c ∈ codePoints t, Stray c := by
  fun_induction codePoints t with
  | case1 => simp at hu
  | case2 v =>
    obtain rfl : u = v := by simpa using hu
    exact ⟨_, List.mem_singleton_self _, h⟩
  | case3 high low rest hPair ih =>
    refine ⟨joinPair high low, List.mem_cons_self, stray_of_surrogate (.inr ?_)⟩
    unfold joinPair
    omega
  | case4 v w rest hPair ih =>
    rcases List.mem_cons.mp hu with rfl | hRest
    · exact ⟨_, List.mem_cons_self, h⟩
    · obtain ⟨c, hc, hStray⟩ := ih hRest
      exact ⟨c, List.mem_cons_of_mem _ hc, hStray⟩

theorem exists_foreign_unit {c : Nat} (h : Foreign c) : ∃ u ∈ ofCodePoint c, Foreign u.toNat := by
  rw [ofCodePoint]
  split_ifs with hUnit
  · refine ⟨_, List.mem_singleton_self _, ?_⟩
    rwa [toNat_toUInt16 hUnit]
  · -- The low half is within its range whatever the high half is.
    refine ⟨_, List.mem_cons_of_mem _ (List.mem_singleton_self _), ?_⟩
    rw [toNat_toUInt16 (by omega)]
    exact (stray_of_surrogate (by omega)).1

/-- The text has a foreign unit, or an f beside a letter that ligatures bind to it. -/
def Betrays (t : Text) : Prop :=
  (∃ u ∈ t, Foreign u.toNat) ∨ ∃ pair ∈ ligatures, pair.flatMap ofCodePoint <:+: t

instance : DecidablePred Betrays := fun t =>
  decidable_of_iff
    (t.any (fun u => Foreign u.toNat) ∨ ligatures.any fun pair => pair.flatMap ofCodePoint <:+: t)
    (by simp only [Betrays, List.any_eq_true, decide_eq_true_eq])

theorem Betrays.mono {part : Text} (h : Betrays part) (hPart : part <:+: t) : Betrays t := by
  rcases h with ⟨u, hu, hForeign⟩ | ⟨pair, hPair, hInfix⟩
  · exact .inl ⟨u, hPart.subset hu, hForeign⟩
  · exact .inr ⟨pair, hPair, hInfix.trans hPart⟩

theorem betrays_upperPoint {c : Nat} (h : Stray c) : Betrays (upperPoint c) := by
  rcases form_of_stray h with ⟨d, hd, hForeign⟩ | ⟨pair, hPair, rest, hForm⟩
  · obtain ⟨u, hu, hUnit⟩ := exists_foreign_unit hForeign
    exact .inl ⟨u, List.mem_flatMap.mpr ⟨d, hd, hu⟩, hUnit⟩
  · refine .inr ⟨pair, hPair, ?_⟩
    rw [upperPoint, ← hForm, List.flatMap_append]
    exact List.infix_append' [] _ _

theorem betrays_upper (hu : u ∈ t) (h : Stray u.toNat) : Betrays (upper t) := by
  obtain ⟨c, hc, hStray⟩ := exists_stray_codePoint hu h
  obtain ⟨before, after, hSplit⟩ := List.append_of_mem hc
  apply (betrays_upperPoint hStray).mono
  rw [upper, hSplit, List.flatMap_append, List.flatMap_cons]
  exact List.infix_append' _ _ _

theorem betrays_spelledOut (hu : u ∈ t) (h : Stray u.toNat) : Betrays ((spelledOut t).map capital) := by
  have hWide : 0x80 ≤ u.toNat := h.1.1
  have hCapital : capital u = u := capital_eq_self (by omega)
  refine .inl ⟨u, List.mem_map.mpr ⟨u, ?_, hCapital⟩, h.1⟩
  rw [spelledOut, List.mem_flatMap]
  exact ⟨u, hu, by simp [spelledUnit_eq_self h.2]⟩

end LogTriage.Text
