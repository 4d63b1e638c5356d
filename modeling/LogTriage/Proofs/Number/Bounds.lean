import LogTriage.Number
import Mathlib.Algebra.Order.Field.Rat

/-! # Numbers in range

Which numbers are taken for a positive integer, and which for a number that is not negative.
-/

namespace LogTriage.Number

set_option autoImplicit false

variable {x : Number}

theorem int?_eq_some_iff {i : Int} : x.int? = some i ↔ x = .finite i := by
  cases x with
  | nan => simp [int?]
  | infinity negative => simp [int?]
  | finite q =>
    rw [int?, finite.injEq]
    split_ifs with hDen
    · rw [Option.some.injEq]
      constructor
      · rintro rfl
        exact (Rat.den_eq_one_iff q).mp hDen |>.symm
      · rintro rfl
        exact Rat.num_intCast i
    · simp only [false_iff]
      rintro rfl
      exact hDen (Rat.den_intCast i)

theorem int?_isSome_iff : x.int?.isSome = true ↔ ∃ i : Int, x = .finite i := by
  simp only [Option.isSome_iff_exists, int?_eq_some_iff]

theorem nat?_eq_some_iff {n : Nat} : x.nat? = some n ↔ x = .finite n := by
  have hInt : x.nat? = some n ↔ x.int? = some (n : Int) := by
    rw [nat?]
    cases x.int? with
    | none => simp
    | some i => cases i <;> simp
  rw [hInt, int?_eq_some_iff]
  rfl

theorem nat?_finite (n : Nat) : (finite n).nat? = some n := nat?_eq_some_iff.mpr rfl

theorem positive?_eq_some_iff {n : Nat} :
    x.positive? = some n ↔ x = .finite n ∧ 1 ≤ n := by
  rw [positive?, Option.filter_eq_some_iff, nat?_eq_some_iff, decide_eq_true_iff]

theorem nonNegative?_eq_some_iff {q : Rat} :
    x.nonNegative? = some q ↔ x = .finite q ∧ 0 ≤ q := by
  cases x with
  | nan => simp [nonNegative?]
  | infinity negative => simp [nonNegative?]
  | finite p =>
    rw [nonNegative?, finite.injEq]
    split_ifs with hSign
    · rw [Option.some.injEq]
      constructor
      · rintro rfl
        exact ⟨rfl, hSign⟩
      · exact And.left
    · simp only [false_iff]
      rintro ⟨rfl, hNot⟩
      exact hSign hNot

end LogTriage.Number
