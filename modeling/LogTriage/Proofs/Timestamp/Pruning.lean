import LogTriage.Timestamp.Pruning
import Mathlib.Data.List.Basic

/-! # What pruning keeps

A pruned list is a part of the list with both its ends. Up to the limit of a pruning each end is as it was,
so pruning to less afterwards is as if there had been no pruning before.
-/

namespace LogTriage.Timestamp

set_option autoImplicit false

variable {n keep : Nat}

theorem prune_sublist (keep : Nat) (ts : List Text) : (prune keep ts).Sublist ts := by
  rw [prune]
  split_ifs with h
  · exact .refl ts
  · have hParts : ts.drop (ts.length - keep) = (ts.drop keep).drop (ts.length - keep - keep) := by
      rw [List.drop_drop]
      congr 1
      omega
    calc
      (ts.take keep ++ ts.drop (ts.length - keep)).Sublist (ts.take keep ++ ts.drop keep) := by
        rw [hParts]
        exact (List.Sublist.refl _).append (List.drop_sublist _ _)
      _ = ts := List.take_append_drop keep ts

theorem prune_eq_self {ts : List Text} (h : ts.length ≤ 2 * keep) : prune keep ts = ts := if_pos h

theorem length_prune (keep : Nat) (ts : List Text) :
    (prune keep ts).length = min ts.length (2 * keep) := by
  rw [prune]
  split_ifs with h
  · exact (Nat.min_eq_left h).symm
  · rw [List.length_append, List.length_take, List.length_drop]
    omega

/-! ## The two ends -/

theorem take_prune (h : n ≤ keep) (ts : List Text) : (prune keep ts).take n = ts.take n := by
  rw [prune]
  split_ifs with hShort
  · rfl
  · have hFront : n ≤ (ts.take keep).length := by
      rw [List.length_take]
      omega
    rw [List.take_append_of_le_length hFront, List.take_take, Nat.min_eq_left h]

theorem drop_prune (h : n ≤ keep) (ts : List Text) :
    (prune keep ts).drop ((prune keep ts).length - n) = ts.drop (ts.length - n) := by
  rw [length_prune, prune]
  split_ifs with hShort
  · rw [Nat.min_eq_left hShort]
  · have hFront : (ts.take keep).length = keep := by
      rw [List.length_take]
      omega
    have hBack : min ts.length (2 * keep) - n = (ts.take keep).length + (keep - n) := by omega
    rw [hBack, List.drop_length_add_append, List.drop_drop]
    congr 1
    omega

theorem prune_head? (hKeep : 1 ≤ keep) (ts : List Text) : (prune keep ts).head? = ts.head? := by
  have hFront := congrArg List.head? (take_prune hKeep ts)
  rwa [List.head?_take, List.head?_take, if_neg Nat.one_ne_zero, if_neg Nat.one_ne_zero] at hFront

theorem prune_getLast? (hKeep : 1 ≤ keep) (ts : List Text) :
    (prune keep ts).getLast? = ts.getLast? := by
  rw [prune]
  split_ifs with hShort
  · rfl
  · rw [List.getLast?_append, List.getLast?_drop, if_neg (by omega)]
    cases hLast : ts.getLast? with
    | none => simp [List.getLast?_eq_none_iff.mp hLast] at hShort
    | some t => rfl

theorem prune_prune (h : n ≤ keep) (ts : List Text) : prune n (prune keep ts) = prune n ts := by
  by_cases hShort : ts.length ≤ 2 * keep
  · rw [prune_eq_self hShort]
  · -- Under equal limits there is nothing left to cut; under a smaller one both lists are too long.
    rcases Nat.eq_or_lt_of_le h with rfl | hLess
    · refine prune_eq_self ?_
      rw [length_prune]
      exact Nat.min_le_right _ _
    · have hLong : ¬ (prune keep ts).length ≤ 2 * n := by
        rw [length_prune]
        omega
      rw [prune, if_neg hLong, take_prune h, drop_prune h, prune, if_neg (by omega)]

/-- `ts` is what a limit of `keep` leaves of `all`. -/
structure KeepsEnds (keep : Nat) (all ts : List Text) : Prop where
  length_le : ts.length ≤ 2 * keep
  sublist : ts.Sublist all
  head? : ts.head? = all.head?
  getLast? : ts.getLast? = all.getLast?
  whole : all.length ≤ 2 * keep → ts = all

theorem keepsEnds_prune (hKeep : 1 ≤ keep) (all : List Text) : KeepsEnds keep all (prune keep all) where
  length_le := by
    rw [length_prune]
    exact Nat.min_le_right _ _
  sublist := prune_sublist keep all
  head? := prune_head? hKeep all
  getLast? := prune_getLast? hKeep all
  whole := prune_eq_self

end LogTriage.Timestamp
