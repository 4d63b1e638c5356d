import LogTriage.Proofs.Number.Rounding
import LogTriage.Timestamp.Window
import Mathlib.Algebra.Order.Field.Rat
import Mathlib.Data.List.Basic

/-! # Selecting timestamps

The greedy walk along a list of timestamps: one is taken unless it can be read and lies too near to one
already taken. What it takes is a part of the list in order, no two of them near each other, and what it
passes over is near to something taken before.
-/

namespace LogTriage

set_option autoImplicit false

namespace Timestamp

/-- Both can be read, both or neither name an offset, and their computed distance is strictly below
the computed length of the interval. -/
def Near (interval : Number) (s t : Text) : Prop :=
  ∃ a b, parse s = some a ∧ parse t = some b ∧ hasOffset s = hasOffset t ∧
    (Number.finite |Binary64.nearest (a - b)|).lt (interval.scaleBy 1000) = true

theorem distance_eq_abs (a b : Rat) : distance a b = |Binary64.nearest (a - b)| := by
  rw [distance]
  split_ifs with h
  · exact (abs_of_neg h).symm
  · exact (abs_of_nonneg (not_lt.mp h)).symm

theorem Near.symm {interval : Number} {s t : Text} (h : Near interval s t) : Near interval t s := by
  obtain ⟨a, b, ha, hb, hOffset, hLt⟩ := h
  refine ⟨b, a, hb, ha, hOffset.symm, ?_⟩
  rwa [← neg_sub, Binary64.nearest_neg, abs_neg]

theorem isClose_iff {interval : Number} {s t : Text} :
    isClose interval s t = true ↔ Near interval s t := by
  rw [isClose, Near]
  cases parse s with
  | none => simp
  | some a =>
    cases parse t with
    | none => simp
    | some b =>
      simp only [Bool.and_eq_true, beq_iff_eq, distance_eq_abs, Option.some.injEq,
        exists_and_left, exists_eq_left', @eq_comm _ (hasOffset t)]

instance (interval : Number) (s t : Text) : Decidable (Near interval s t) :=
  decidable_of_iff (isClose interval s t = true) isClose_iff

/-- May be taken beside `taken`. -/
def Admissible (interval : Number) (taken : List Text) (t : Text) : Prop :=
  parse t = none ∨ ∀ s ∈ taken, ¬ Near interval t s

instance (interval : Number) (taken : List Text) (t : Text) :
    Decidable (Admissible interval taken t) :=
  inferInstanceAs (Decidable (_ ∨ _))

@[simp] theorem admissible_nil (interval : Number) (t : Text) : Admissible interval [] t :=
  .inr (by simp)

/-- The walk, with what has been taken so far. -/
def selectFrom (interval : Number) (taken : List Text) : List Text → List Text
  | [] => taken
  | t :: rest =>
    if Admissible interval taken t then selectFrom interval (taken ++ [t]) rest
    else selectFrom interval taken rest

def select (interval : Number) (ts : List Text) : List Text := selectFrom interval [] ts

theorem isRedundant_eq_false_iff {interval : Number} {t : Text} {taken : List Text} :
    (isRedundant interval t taken).1 = false ↔ Admissible interval taken t := by
  rw [isRedundant, Admissible]
  cases parse t with
  | none => simp
  | some a => simp [← isClose_iff]

theorem not_admissible_iff {interval : Number} {t : Text} {taken : List Text} :
    ¬ Admissible interval taken t ↔ ∃ s ∈ taken, Near interval t s := by
  rw [Admissible, not_or]
  constructor
  · rintro ⟨-, h⟩
    by_contra hNone
    exact h fun s hs hNear => hNone ⟨s, hs, hNear⟩
  · rintro ⟨s, hs, hNear⟩
    refine ⟨fun hParse => ?_, fun h => h s hs hNear⟩
    obtain ⟨a, b, ha, -⟩ := hNear
    simp [hParse] at ha

variable (interval : Number)

theorem selectFrom_append (taken ts more : List Text) :
    selectFrom interval taken (ts ++ more) =
      selectFrom interval (selectFrom interval taken ts) more := by
  induction ts generalizing taken with
  | nil => rfl
  | cons t ts ih =>
    rw [List.cons_append, selectFrom, selectFrom]
    split_ifs
    · exact ih _
    · exact ih _

theorem select_append (ts more : List Text) :
    select interval (ts ++ more) = selectFrom interval (select interval ts) more :=
  selectFrom_append interval [] ts more

theorem selectFrom_singleton (taken : List Text) (t : Text) :
    selectFrom interval taken [t] = if Admissible interval taken t then taken ++ [t] else taken := by
  rw [selectFrom]
  split_ifs <;> rfl

theorem select_cons (t : Text) (ts : List Text) :
    select interval (t :: ts) = selectFrom interval [t] ts := by
  rw [select, selectFrom, if_pos (admissible_nil interval t), List.nil_append]

theorem selectFrom_eq_append (taken ts : List Text) :
    ∃ added, selectFrom interval taken ts = taken ++ added ∧ added.Sublist ts := by
  induction ts generalizing taken with
  | nil => exact ⟨[], (List.append_nil taken).symm, .slnil⟩
  | cons t ts ih =>
    rw [selectFrom]
    split_ifs
    · obtain ⟨added, hEq, hSub⟩ := ih (taken ++ [t])
      exact ⟨t :: added, by rw [hEq, List.append_assoc, List.singleton_append], hSub.cons_cons t⟩
    · obtain ⟨added, hEq, hSub⟩ := ih taken
      exact ⟨added, hEq, hSub.cons t⟩

theorem select_isPrefix (ts more : List Text) :
    select interval ts <+: select interval (ts ++ more) := by
  obtain ⟨added, hEq, -⟩ := selectFrom_eq_append interval (select interval ts) more
  exact ⟨added, by rw [select_append, hEq]⟩

theorem select_sublist (ts : List Text) : (select interval ts).Sublist ts := by
  obtain ⟨added, hEq, hSub⟩ := selectFrom_eq_append interval [] ts
  rwa [select, hEq, List.nil_append]

def Separated (ts : List Text) : Prop := ts.Pairwise fun s t => ¬ Near interval s t

theorem selectFrom_separated {taken : List Text} (h : Separated interval taken) (ts : List Text) :
    Separated interval (selectFrom interval taken ts) := by
  induction ts generalizing taken with
  | nil => exact h
  | cons t ts ih =>
    rw [selectFrom]
    split_ifs with hAdmits
    · refine ih (List.pairwise_append.mpr ⟨h, List.pairwise_singleton _ t, ?_⟩)
      rintro s hs t' ht' hNear
      rw [List.mem_singleton.mp ht'] at hNear
      rcases hAdmits with hParse | hFar
      · obtain ⟨a, b, -, hb, -⟩ := hNear
        simp [hParse] at hb
      · exact hFar s hs hNear.symm
    · exact ih h

theorem select_separated (ts : List Text) : Separated interval (select interval ts) :=
  selectFrom_separated interval .nil ts

/-- The next timestamp is taken, or it is near to one that was taken before. -/
theorem select_concat (ts : List Text) (t : Text) :
    Admissible interval (select interval ts) t ∧
        select interval (ts ++ [t]) = select interval ts ++ [t] ∨
      (∃ s ∈ select interval ts, Near interval t s) ∧
        select interval (ts ++ [t]) = select interval ts := by
  rw [select_append, selectFrom_singleton]
  by_cases hAdmits : Admissible interval (select interval ts) t
  · exact .inl ⟨hAdmits, if_pos hAdmits⟩
  · exact .inr ⟨not_admissible_iff.mp hAdmits, if_neg hAdmits⟩

theorem select_head? (ts : List Text) : (select interval ts).head? = ts.head? := by
  cases ts with
  | nil => rfl
  | cons t ts =>
    obtain ⟨added, hEq, -⟩ := selectFrom_eq_append interval [t] ts
    rw [select_cons, hEq]
    rfl

end Timestamp
end LogTriage
