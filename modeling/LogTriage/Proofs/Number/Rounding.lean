import LogTriage.Number
import Mathlib.Algebra.Order.Field.Basic
import Mathlib.Algebra.Order.Field.Power
import Mathlib.Algebra.Order.Field.Rat
import Mathlib.Tactic.Linarith
import Mathlib.Tactic.Positivity
import Mathlib.Tactic.Ring

/-! # Rounding keeps the order

The nearest binary64 value of a greater number is no smaller. Where two numbers are rounded in the same
place this is the rounding of their significands; where they are not, a power of two stands between the
results.
-/

namespace LogTriage.Binary64

set_option autoImplicit false

theorem nearest_neg (q : Rat) : nearest (-q) = -nearest q := by
  by_cases hZero : q.num = 0
  · simp [nearest, hZero]
  · have hZero' : -q.num ≠ 0 := by omega
    simp only [nearest, Rat.neg_num, Rat.neg_den, Int.natAbs_neg, if_neg hZero, if_neg hZero']
    by_cases hNeg : q.num < 0
    · rw [if_pos hNeg, if_neg (by omega), neg_neg]
    · rw [if_neg hNeg, if_pos (by omega)]

/-! ## Significands -/

/-- `m` is as near to `x` as a natural number can be, and even if another one is as near. -/
structure IsNearest (x : Rat) (m : Nat) : Prop where
  le_add : (m : Rat) ≤ x + 1 / 2
  sub_le : x ≤ m + 1 / 2
  even : (m : Rat) = x + 1 / 2 ∨ x = m + 1 / 2 → m % 2 = 0

theorem isNearest_natCast (n : Nat) : IsNearest n n where
  le_add := by linarith
  sub_le := by linarith
  even := by
    rintro (h | h)
    · linarith
    · linarith

theorem IsNearest.mono {x y : Rat} {m n : Nat} (hx : IsNearest x m) (hy : IsNearest y n)
    (h : x ≤ y) : m ≤ n := by
  by_contra hLess
  have hGap : ((n + 1 : Nat) : Rat) ≤ m := Nat.cast_le.mpr (by omega)
  push_cast at hGap
  have hUpper := hx.le_add
  have hLower := hy.sub_le
  -- Both lie halfway between `n` and `n + 1`, and these are not both even.
  have hm : (m : Rat) = x + 1 / 2 := by linarith
  have hn : y = n + 1 / 2 := by linarith
  have hNext : m = n + 1 := by
    have hCast : (m : Rat) = ((n + 1 : Nat) : Rat) := by
      push_cast
      linarith
    exact Nat.cast_injective hCast
  have hEvenM := hx.even (.inl hm)
  have hEvenN := hy.even (.inr hn)
  omega

theorem isNearest_floor (n : Nat) {f : Rat} (hPos : 0 ≤ f) (hBelow : 2 * f < 1) :
    IsNearest (n + f) n := by
  refine ⟨by linarith, by linarith, ?_⟩
  rintro (h | h)
  · linarith
  · linarith

theorem isNearest_ceil (n : Nat) {f : Rat} (hAbove : 1 < 2 * f) (hOne : f < 1) :
    IsNearest (n + f) (n + 1 : Nat) := by
  have hCast : ((n + 1 : Nat) : Rat) = n + 1 := Nat.cast_succ n
  refine ⟨by linarith, by linarith, ?_⟩
  rintro (h | h)
  · linarith
  · linarith

theorem isNearest_even (n : Nat) {f : Rat} (hHalf : 2 * f = 1) :
    IsNearest (n + f) (n + n % 2 : Nat) := by
  have hCast : ((n + n % 2 : Nat) : Rat) = n + (n % 2 : Nat) := Nat.cast_add n (n % 2)
  have hZero : (0 : Rat) ≤ (n % 2 : Nat) := Nat.cast_nonneg _
  have hOne : ((n % 2 : Nat) : Rat) ≤ 1 := by
    exact_mod_cast (by omega : n % 2 ≤ 1)
  exact ⟨by linarith, by linarith, fun _ => by omega⟩

theorem divideToNearest_isNearest {num den : Nat} (hDen : 0 < den) :
    IsNearest (num / den) (divideToNearest num den) := by
  have hDen' : (0 : Rat) < den := Nat.cast_pos.mpr hDen
  have hNum : (num : Rat) = den * (num / den : Nat) + (num % den : Nat) := by
    exact_mod_cast (Nat.div_add_mod num den).symm
  obtain ⟨f, hf⟩ : ∃ f, f = ((num % den : Nat) : Rat) / den := ⟨_, rfl⟩
  have hSplit : (num : Rat) / den = (num / den : Nat) + f := by
    rw [hf, hNum, add_div, mul_div_cancel_left₀ _ hDen'.ne']
  have hPos : 0 ≤ f := by
    rw [hf]
    positivity
  have hOne : f < 1 := by
    rw [hf, div_lt_one hDen']
    exact_mod_cast Nat.mod_lt num hDen
  have hTwice : 2 * f = ((2 * (num % den) : Nat) : Rat) / den := by
    rw [hf]
    push_cast
    ring
  rw [hSplit, divideToNearest]
  split_ifs with hBelow hAbove
  · apply isNearest_floor _ hPos
    rw [hTwice, div_lt_one hDen']
    exact_mod_cast hBelow
  · apply isNearest_ceil _ _ hOne
    rw [hTwice, one_lt_div hDen']
    exact_mod_cast hAbove
  · apply isNearest_even
    rw [hTwice, div_eq_one_iff_eq hDen'.ne']
    exact_mod_cast (by omega : 2 * (num % den) = den)

theorem significand_isNearest {num den : Nat} (hDen : 0 < den) (e : Int) :
    IsNearest (num / den / 2 ^ e) (significand num den e) := by
  cases e with
  | ofNat k =>
    have hNearest : IsNearest _ (divideToNearest num (den * 2 ^ k)) :=
      divideToNearest_isNearest (by positivity)
    rwa [Nat.cast_mul, Nat.cast_pow, Nat.cast_ofNat, ← div_div] at hNearest
  | negSucc k =>
    have hNearest : IsNearest _ (divideToNearest (num * 2 ^ (k + 1)) den) :=
      divideToNearest_isNearest hDen
    rw [Nat.cast_mul, Nat.cast_pow, Nat.cast_ofNat, mul_div_right_comm] at hNearest
    rw [zpow_negSucc, div_inv_eq_mul]
    exact hNearest

theorem scale_eq (m : Nat) (e : Int) : scale m e = m * 2 ^ e := by
  cases e with
  | ofNat k =>
    rw [scale, Int.ofNat_eq_natCast, zpow_natCast, Nat.pow_eq]
    push_cast
    rfl
  | negSucc k =>
    rw [scale, Rat.mkRat_eq_div, zpow_negSucc, div_eq_mul_inv, Nat.pow_eq]
    push_cast
    rfl

/-! ## The last place -/

/-- The logarithms of both numbers, rounded down, leave two exponents open. -/
theorem log2_bounds {num den : Nat} (hNum : 0 < num) (hDen : 0 < den) {e : Int}
    (he : e = (Nat.log2 num : Int) - Nat.log2 den) :
    (2 : Rat) ^ (e - 1) ≤ num / den ∧ (num : Rat) / den < 2 ^ (e + 1) := by
  have hDen' : (0 : Rat) < den := Nat.cast_pos.mpr hDen
  have hNumLow : (2 : Rat) ^ (Nat.log2 num : Int) ≤ num := by
    rw [zpow_natCast]
    exact_mod_cast Nat.log2_self_le hNum.ne'
  have hNumHigh : (num : Rat) < 2 ^ ((Nat.log2 num : Int) + 1) := by
    exact_mod_cast @Nat.lt_log2_self num
  have hDenLow : (2 : Rat) ^ (Nat.log2 den : Int) ≤ den := by
    rw [zpow_natCast]
    exact_mod_cast Nat.log2_self_le hDen.ne'
  have hDenHigh : (den : Rat) < 2 ^ ((Nat.log2 den : Int) + 1) := by
    exact_mod_cast @Nat.lt_log2_self den
  constructor
  · rw [le_div_iff₀ hDen']
    calc
      (2 : Rat) ^ (e - 1) * den ≤ 2 ^ (e - 1) * 2 ^ ((Nat.log2 den : Int) + 1) :=
        mul_le_mul_of_nonneg_left hDenHigh.le (by positivity)
      _ = 2 ^ (Nat.log2 num : Int) := by
        rw [← zpow_add₀ two_ne_zero]
        congr 1
        omega
      _ ≤ num := hNumLow
  · rw [div_lt_iff₀ hDen']
    calc
      (num : Rat) < 2 ^ ((Nat.log2 num : Int) + 1) := hNumHigh
      _ = 2 ^ (e + 1) * 2 ^ (Nat.log2 den : Int) := by
        rw [← zpow_add₀ two_ne_zero]
        congr 1
        omega
      _ ≤ 2 ^ (e + 1) * den := mul_le_mul_of_nonneg_left hDenLow (by positivity)

theorem floorLog2_spec {num den : Nat} (hNum : 0 < num) (hDen : 0 < den) :
    (2 : Rat) ^ floorLog2 num den ≤ num / den ∧
      (num : Rat) / den < 2 ^ (floorLog2 num den + 1) := by
  have hDen' : (0 : Rat) < den := Nat.cast_pos.mpr hDen
  obtain ⟨e, he⟩ : ∃ e : Int, e = (Nat.log2 num : Int) - Nat.log2 den := ⟨_, rfl⟩
  obtain ⟨hLow, hHigh⟩ := log2_bounds hNum hDen he
  have hChoice (fits : Bool) (hFits : fits = true ↔ (2 : Rat) ^ e ≤ num / den) :
      (2 : Rat) ^ (if fits then e else e - 1) ≤ num / den ∧
        (num : Rat) / den < 2 ^ ((if fits then e else e - 1) + 1) := by
    split_ifs with h
    · exact ⟨hFits.mp h, hHigh⟩
    · rw [sub_add_cancel]
      exact ⟨hLow, not_le.mp (mt hFits.mpr h)⟩
  rw [floorLog2, ← he]
  apply hChoice
  cases e with
  | ofNat k =>
    rw [decide_eq_true_eq, le_div_iff₀ hDen', Int.ofNat_eq_natCast, zpow_natCast, mul_comm]
    exact_mod_cast Iff.rfl
  | negSucc k =>
    rw [decide_eq_true_eq, le_div_iff₀ hDen', zpow_negSucc, inv_mul_le_iff₀ (by positivity), mul_comm]
    exact_mod_cast Iff.rfl

/-- Above the smallest last place, a significand has its full length. -/
theorem lastPlace_spec {num den : Nat} (hNum : 0 < num) (hDen : 0 < den) :
    (num : Rat) / den < 2 ^ (lastPlace num den + 53) ∧ -1074 ≤ lastPlace num den ∧
      (-1074 < lastPlace num den → (2 : Rat) ^ (lastPlace num den + 52) ≤ num / den) := by
  obtain ⟨hLow, hHigh⟩ := floorLog2_spec hNum hDen
  refine ⟨?_, le_max_right _ _, ?_⟩
  · refine hHigh.trans_le (zpow_le_zpow_right₀ one_le_two ?_)
    have hLe : floorLog2 num den - 52 ≤ lastPlace num den := le_max_left _ _
    omega
  · intro hAbove
    have hEq : lastPlace num den + 52 = floorLog2 num den := by
      rw [lastPlace] at hAbove ⊢
      omega
    rwa [hEq]

/-! ## Numbers of either sign -/

/-- A positive number is rounded in units of its last place. -/
theorem nearest_of_pos {q : Rat} (h : 0 < q) : ∃ (e : Int) (m : Nat),
    nearest q = m * 2 ^ e ∧ IsNearest (q / 2 ^ e) m ∧ q < 2 ^ (e + 53) ∧ -1074 ≤ e ∧
      (-1074 < e → 2 ^ (e + 52) ≤ q) := by
  have hNum : 0 < q.num := Rat.num_pos.mpr h
  have hSplit : ((q.num.natAbs : Nat) : Rat) / q.den = q := by
    rw [Nat.cast_natAbs, abs_of_pos hNum, Rat.num_div_den]
  have hPlace := lastPlace_spec (Int.natAbs_pos.mpr hNum.ne') q.den_pos
  have hNearest : IsNearest (q.num.natAbs / q.den / 2 ^ lastPlace q.num.natAbs q.den) _ :=
    significand_isNearest q.den_pos _
  rw [hSplit] at hPlace hNearest
  refine ⟨_, _, ?_, hNearest, hPlace⟩
  rw [nearest, if_neg hNum.ne', ← scale_eq]
  exact if_neg (by omega)

theorem nearest_le_of_pos {p q : Rat} (hp : 0 < p) (h : p ≤ q) : nearest p ≤ nearest q := by
  obtain ⟨e, m, hp', hm, hHigh, hLeast, hLow⟩ := nearest_of_pos hp
  obtain ⟨f, n, hq', hn, hHigh', hLeast', hLow'⟩ := nearest_of_pos (hp.trans_le h)
  have hPow (e : Int) : (0 : Rat) < 2 ^ e := by positivity
  rw [hp', hq']
  rcases lt_trichotomy e f with hLess | rfl | hMore
  · -- A power of two lies between the results.
    have hm' : m ≤ 2 ^ 53 := by
      apply hm.mono (isNearest_natCast _)
      rw [div_le_iff₀ (hPow e), Nat.cast_pow, Nat.cast_ofNat, ← zpow_natCast,
        ← zpow_add₀ two_ne_zero, add_comm]
      exact hHigh.le
    have hn' : 2 ^ 52 ≤ n := by
      apply (isNearest_natCast _).mono hn
      rw [le_div_iff₀ (hPow f), Nat.cast_pow, Nat.cast_ofNat, ← zpow_natCast,
        ← zpow_add₀ two_ne_zero, add_comm]
      exact hLow' (by omega)
    calc
      (m : Rat) * 2 ^ e ≤ (2 ^ 53 : Nat) * 2 ^ e :=
        mul_le_mul_of_nonneg_right (Nat.cast_le.mpr hm') (hPow e).le
      _ = 2 ^ (e + 53) := by
        rw [zpow_add₀ two_ne_zero, mul_comm]
        norm_num
      _ ≤ 2 ^ (f + 52) := zpow_le_zpow_right₀ one_le_two (by omega)
      _ = (2 ^ 52 : Nat) * 2 ^ f := by
        rw [zpow_add₀ two_ne_zero, mul_comm]
        norm_num
      _ ≤ n * 2 ^ f := mul_le_mul_of_nonneg_right (Nat.cast_le.mpr hn') (hPow f).le
  · have hLe : m ≤ n := hm.mono hn (div_le_div_of_nonneg_right h (hPow e).le)
    exact mul_le_mul_of_nonneg_right (Nat.cast_le.mpr hLe) (hPow e).le
  · have hOrder := (hLow (by omega)).trans_lt (h.trans_lt hHigh')
    rw [zpow_lt_zpow_iff_right₀ one_lt_two] at hOrder
    omega

theorem nearest_zero : nearest 0 = 0 := rfl

theorem nearest_nonneg {q : Rat} (h : 0 ≤ q) : 0 ≤ nearest q := by
  rcases h.eq_or_lt with rfl | hPos
  · exact le_rfl
  · obtain ⟨e, m, hEq, -⟩ := nearest_of_pos hPos
    rw [hEq]
    positivity

theorem nearest_le_nearest {p q : Rat} (h : p ≤ q) : nearest p ≤ nearest q := by
  rcases lt_or_ge 0 p with hp | hp
  · exact nearest_le_of_pos hp h
  · have hLow : nearest p ≤ 0 := by
      rw [← neg_neg p, nearest_neg, neg_nonpos]
      exact nearest_nonneg (neg_nonneg.mpr hp)
    rcases lt_or_ge q 0 with hq | hq
    · rw [← neg_neg p, ← neg_neg q, nearest_neg (-p), nearest_neg (-q)]
      exact neg_le_neg (nearest_le_of_pos (neg_pos.mpr hq) (neg_le_neg h))
    · exact hLow.trans (nearest_nonneg hq)

theorem abs_nearest (q : Rat) : |nearest q| = nearest |q| := by
  rcases le_total 0 q with h | h
  · rw [abs_of_nonneg h, abs_of_nonneg (nearest_nonneg h)]
  · rw [abs_of_nonpos h, nearest_neg, abs_of_nonpos]
    exact nearest_zero ▸ nearest_le_nearest h

end LogTriage.Binary64

namespace LogTriage.Number

set_option autoImplicit false

theorem lt_of_le_of_lt_finite {d e : Rat} {x : Number} (hLe : d ≤ e)
    (h : (finite e).lt x = true) : (finite d).lt x = true := by
  cases x with
  | nan => simp [lt] at h
  | infinity negative => exact h
  | finite q =>
    simp only [lt, decide_eq_true_eq] at h ⊢
    exact hLe.trans_lt h

/-- A greater number is no smaller when it is rounded, be it beyond the finite range or not. -/
theorem lt_ofRat_of_le {d p q : Rat} (hLe : p ≤ q) (h : (finite d).lt (ofRat p) = true) :
    (finite d).lt (ofRat q) = true := by
  have hNearest := Binary64.nearest_le_nearest hLe
  rw [ofRat] at h ⊢
  by_cases hHigh : Binary64.overflow ≤ Binary64.nearest q
  · rw [if_pos hHigh]
    rfl
  · rw [if_neg fun hHigh' => hHigh (hHigh'.trans hNearest)] at h
    split_ifs at h with hLow
    · cases h
    · rw [if_neg hHigh, if_neg fun hLow' => hLow (hNearest.trans hLow')]
      simp only [lt, decide_eq_true_eq] at h ⊢
      exact h.trans_le hNearest

end LogTriage.Number
