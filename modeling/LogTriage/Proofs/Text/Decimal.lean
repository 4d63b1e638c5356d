import LogTriage.Text
import Mathlib.Algebra.Group.Nat.Defs
import Mathlib.Data.List.Induction

/-! # Numbers of fixed width

A number below a power of ten is written with leading zeros. Such a text reads back as the number, and
every text of that many digits is the written form of its value.
-/

namespace LogTriage.Text

set_option autoImplicit false

def unit (c : Char) : CodeUnit := c.toNat.toUInt16

def digit (d : Nat) : CodeUnit := (0x30 + d).toUInt16

/-- The last `width` decimal digits of a number. -/
def padded : Nat → Nat → Text
  | 0, _ => []
  | width + 1, n => padded width (n / 10) ++ [digit (n % 10)]

theorem isDigit_iff {u : CodeUnit} : isDigit u = true ↔ 0x30 ≤ u.toNat ∧ u.toNat ≤ 0x39 := by
  simp [isDigit, UInt16.le_iff_toNat_le]

theorem toNat_digit {d : Nat} (h : d < 10) : (digit d).toNat = 0x30 + d := by
  rw [digit, Nat.toUInt16_eq, UInt16.toNat_ofNat']
  omega

theorem digitValue_digit {d : Nat} (h : d < 10) : digitValue (digit d) = d := by
  rw [digitValue, toNat_digit h]
  omega

theorem isDigit_digit {d : Nat} (h : d < 10) : isDigit (digit d) = true := by
  rw [isDigit_iff, toNat_digit h]
  omega

theorem digitValue_lt {u : CodeUnit} (h : isDigit u = true) : digitValue u < 10 := by
  rw [isDigit_iff] at h
  rw [digitValue]
  omega

theorem digit_digitValue {u : CodeUnit} (h : isDigit u = true) : digit (digitValue u) = u := by
  have hLt := digitValue_lt h
  rw [isDigit_iff] at h
  apply UInt16.toNat_inj.mp
  rw [toNat_digit hLt, digitValue]
  omega

theorem length_padded (width n : Nat) : (padded width n).length = width := by
  induction width generalizing n with
  | zero => rfl
  | succ width ih => rw [padded, List.length_append, ih, List.length_singleton]

theorem isDigit_of_mem_padded {width n : Nat} {u : CodeUnit} (h : u ∈ padded width n) :
    isDigit u = true := by
  induction width generalizing n with
  | zero => simp [padded] at h
  | succ width ih =>
    rw [padded] at h
    rcases List.mem_append.mp h with h | h
    · exact ih h
    · rw [List.mem_singleton.mp h]
      exact isDigit_digit (Nat.mod_lt n (by decide))

theorem decimalValue_concat (ds : Text) (u : CodeUnit) :
    decimalValue (ds ++ [u]) = 10 * decimalValue ds + digitValue u := by
  rw [decimalValue, List.foldl_append]
  rfl

theorem decimalValue_padded {width n : Nat} (h : n < 10 ^ width) :
    decimalValue (padded width n) = n := by
  induction width generalizing n with
  | zero =>
    obtain rfl : n = 0 := by simpa using h
    rfl
  | succ width ih =>
    have hLt : n / 10 < 10 ^ width := by
      rw [Nat.pow_succ] at h
      omega
    rw [padded, decimalValue_concat, ih hLt, digitValue_digit (Nat.mod_lt n (by decide))]
    omega

theorem padded_decimalValue {ds : Text} (h : ∀ u ∈ ds, isDigit u = true) :
    padded ds.length (decimalValue ds) = ds := by
  induction ds using List.reverseRecOn with
  | nil => rfl
  | append_singleton ds u ih =>
    have hDigit : isDigit u = true := h u (by simp)
    have hLt := digitValue_lt hDigit
    have hFront : decimalValue (ds ++ [u]) / 10 = decimalValue ds := by
      rw [decimalValue_concat]
      omega
    have hLast : decimalValue (ds ++ [u]) % 10 = digitValue u := by
      rw [decimalValue_concat]
      omega
    rw [List.length_append, List.length_singleton, padded, hFront, hLast, digit_digitValue hDigit,
      ih fun v hv => h v (List.mem_append_left _ hv)]

theorem decimalValue_lt {ds : Text} (h : ∀ u ∈ ds, isDigit u = true) :
    decimalValue ds < 10 ^ ds.length := by
  induction ds using List.reverseRecOn with
  | nil => decide
  | append_singleton ds u ih =>
    have hLt := digitValue_lt (h u (by simp))
    have hFront := ih fun v hv => h v (List.mem_append_left _ hv)
    rw [decimalValue_concat, List.length_append, List.length_singleton, Nat.pow_succ]
    omega

/-- No half of a surrogate pair stands for a character other than NUL. -/
theorem charOf_eq_iff {u : CodeUnit} {c : Char} (hNul : c ≠ '\x00') :
    charOf u = c ↔ u.toNat = c.toNat := by
  constructor
  · rintro rfl
    by_cases hValid : u.toNat.isValidChar
    · rw [charOf, Char.ofNat, dif_pos hValid]
      rfl
    · rw [charOf, Char.ofNat, dif_neg hValid] at hNul
      exact absurd rfl hNul
  · intro h
    rw [charOf, h, Char.ofNat_toNat]

theorem charOf_inj {u v : CodeUnit} (hNul : charOf u ≠ '\x00') (h : charOf u = charOf v) : u = v := by
  have hu := (charOf_eq_iff hNul).mp rfl
  have hv := (charOf_eq_iff hNul).mp h.symm
  exact UInt16.toNat_inj.mp (hu.trans hv.symm)

theorem charOf_unit_iff {u : CodeUnit} {c : Char} (hNul : c ≠ '\x00') (hSmall : c.toNat < 65536) :
    charOf u = c ↔ u = unit c := by
  rw [charOf_eq_iff hNul, unit, Nat.toUInt16_eq]
  constructor
  · intro h
    rw [← h, UInt16.ofNat_toNat]
  · rintro rfl
    rw [UInt16.toNat_ofNat']
    omega

end LogTriage.Text
