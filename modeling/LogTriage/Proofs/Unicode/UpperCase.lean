import LogTriage.Text
import LogTriage.Unicode.UpperCase
import Mathlib.Data.List.Basic

/-! # Where upper case leads

Only ten characters outside ASCII have an upper-case form that is written in ASCII. Five of them are
ligatures that begin with an f. The form of any other character keeps a part outside ASCII, and a blank is
its own form.
-/

namespace LogTriage.Unicode

set_option autoImplicit false

open CaseMapping
open Text (isBlank)

def blanks : List Nat :=
  [0x09, 0x0A, 0x0B, 0x0C, 0x0D, 0x20, 0xA0, 0x1680, 0x2000, 0x2001, 0x2002, 0x2003, 0x2004, 0x2005,
    0x2006, 0x2007, 0x2008, 0x2009, 0x200A, 0x2028, 0x2029, 0x202F, 0x205F, 0x3000, 0xFEFF]

theorem isBlank_iff_mem_blanks {c : Nat} : isBlank c = true ↔ c ∈ blanks := by
  constructor
  · intro h
    simp only [isBlank, Text.isLineEnd, Bool.or_eq_true, Bool.and_eq_true, decide_eq_true_eq,
      beq_iff_eq] at h
    simp only [blanks, List.mem_cons, List.not_mem_nil, or_false]
    omega
  · have hAll : ∀ b ∈ blanks, isBlank b = true := by decide
    exact hAll c

/-- Outside ASCII, and no blank. -/
def Foreign (c : Nat) : Prop := 0x80 ≤ c ∧ isBlank c = false

instance : DecidablePred Foreign := fun _ => inferInstanceAs (Decidable (_ ∧ _))

/-- The letters outside ASCII that are capital letters of ASCII in upper case: the dotless i, the long s,
the sharp s and both ligatures of s and t. -/
def letterVariants : List Nat := [0x131, 0x17F, 0xDF, 0xFB05, 0xFB06]

/-- Foreign, and no variant of a letter. The ligatures with an f are counted here, as no name has both
of their letters side by side. -/
def Stray (c : Nat) : Prop := Foreign c ∧ c ∉ letterVariants

instance : DecidablePred Stray := fun _ => inferInstanceAs (Decidable (_ ∧ _))

theorem stray_iff {c : Nat} : Stray c ↔ 0x80 ≤ c ∧ c ∉ blanks ++ letterVariants := by
  rw [Stray, Foreign, Bool.eq_false_iff, Ne, isBlank_iff_mem_blanks, List.mem_append, not_or, and_assoc]

/-- Half surrogates and what takes two of them are stray. -/
theorem stray_of_surrogate {c : Nat} (h : 0xD800 ≤ c ∧ c < 0xE000 ∨ 0x10000 ≤ c) : Stray c := by
  rw [stray_iff]
  simp only [blanks, letterVariants, List.cons_append, List.nil_append, List.mem_cons,
    List.not_mem_nil, or_false]
  omega

/-- All that the shift leads to is foreign. -/
def Clear (s : Shift) : Prop :=
  0x80 ≤ s.source.first + s.delta ∧
    ∀ b ∈ blanks, ¬ (s.source.first + s.delta ≤ b ∧ b ≤ s.source.last + s.delta)

instance : DecidablePred Clear := fun _ => inferInstanceAs (Decidable (_ ∧ _))

theorem Clear.foreign {s : Shift} (hs : Clear s) {c : Nat} (hc : s.source.has c = true) :
    Foreign (s.target c) := by
  obtain ⟨hFirst, hLast, -⟩ := (s.source.has_iff c).mp hc
  obtain ⟨hLow, hBlanks⟩ := hs
  have hTarget : (s.target c : Int) = c + s.delta := by
    rw [Shift.target, Int.ofNat_eq_natCast, Int.toNat_of_nonneg]
    omega
  constructor
  · omega
  · rw [Bool.eq_false_iff, Ne, isBlank_iff_mem_blanks]
    intro hBlank
    exact hBlanks _ hBlank (by omega)

/-- Besides the shift within ASCII, only those of single variant letters lead into ASCII. -/
theorem clear_of_mem : ∀ s ∈ UpperCase.wideTable ++ upperTable,
    s.source.last < 0x80 ∨ (s.source.first = s.source.last ∧ s.source.first ∈ letterVariants) ∨ Clear s := by
  decide +kernel

theorem Stray.foreign_apply {c : Nat} (h : Stray c) :
    Foreign (apply (UpperCase.wideTable ++ upperTable) c) := by
  rw [apply]
  split
  · next s hs =>
    have hHas : s.source.has c = true := List.find?_some (p := fun s : Shift => s.source.has c) hs
    obtain ⟨hFirst, hLast, -⟩ := (s.source.has_iff c).mp hHas
    rcases clear_of_mem s (List.mem_of_find?_eq_some hs) with hAscii | ⟨hOne, hVariant⟩ | hClear
    · have hLow := h.1.1
      omega
    · obtain rfl : c = s.source.first := by omega
      exact absurd hVariant h.2
    · exact hClear.foreign hHas
  · exact h.1

/-- An f and what is bound to it. -/
def ligatures : List (List Nat) := [[0x46, 0x46], [0x46, 0x49], [0x46, 0x4C]]

theorem expansion_of_mem : ∀ e ∈ UpperCase.expansions, e.1 ∉ letterVariants →
    (∃ d ∈ e.2, Foreign d) ∨ ∃ pair ∈ ligatures, pair <+: e.2 := by
  decide

theorem form_of_stray {c : Nat} (h : Stray c) :
    (∃ d ∈ UpperCase.form c, Foreign d) ∨ ∃ pair ∈ ligatures, pair <+: UpperCase.form c := by
  have hAscii : ¬ c < 0x80 := Nat.not_lt.mpr h.1.1
  rw [UpperCase.form, if_neg hAscii]
  split
  · next expansion hExpansion =>
    obtain ⟨before, after, hSplit, -⟩ := List.lookup_eq_some_iff.mp hExpansion
    have hMem : (c, expansion) ∈ UpperCase.expansions := by
      rw [hSplit]
      exact List.mem_append_cons_self
    exact expansion_of_mem _ hMem h.2
  · exact .inl ⟨_, List.mem_singleton_self _, h.foreign_apply⟩

theorem form_of_blank {c : Nat} (h : isBlank c = true) : UpperCase.form c = [c] := by
  have hAll : ∀ b ∈ blanks, UpperCase.form b = [b] := by decide
  exact hAll c (isBlank_iff_mem_blanks.mp h)

end LogTriage.Unicode
