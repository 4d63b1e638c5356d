import LogTriage.Proofs.Grouping.ByKey

/-! # The warnings of grouping

An occurrence gives a warning if its key has been seen before and its timestamp cannot be read. The first
occurrence of a key gives none, since nothing is compared with its timestamp.
-/

namespace LogTriage

set_option autoImplicit false

namespace Occurrence

/-- The occurrences whose key an earlier one has. -/
def repeats (os : List Occurrence) : List Occurrence :=
  (os.zipIdx.filter fun entry => entry.1.key ∈ (os.take entry.2).map key).map (·.1)

theorem repeats_concat (os : List Occurrence) (o : Occurrence) :
    repeats (os ++ [o]) = repeats os ++ if o.key ∈ os.map key then [o] else [] := by
  have hFront : (os.zipIdx.filter fun entry => entry.1.key ∈ ((os ++ [o]).take entry.2).map key) =
      os.zipIdx.filter fun entry => entry.1.key ∈ (os.take entry.2).map key := by
    apply List.filter_congr
    intro entry hEntry
    obtain ⟨-, hLess, -⟩ := List.mem_zipIdx hEntry
    rw [List.take_append_of_le_length (by omega)]
  rw [repeats, List.zipIdx_append, List.filter_append, hFront, List.map_append, repeats]
  by_cases hSeen : o.key ∈ os.map key <;> simp [hSeen]

/-- The timestamp of an occurrence if there is one that cannot be read. -/
def unreadable? (o : Occurrence) : Option Text := o.timestamp.filter fun t => (Timestamp.parse t).isNone

end Occurrence

theorem Timestamp.log_isRedundant (interval : Number) (t : Text) (recorded : List Text) :
    (isRedundant interval t recorded).2 =
      if (parse t).isNone then [.unreadableTimestamp t] else [] := by
  rw [isRedundant]
  cases parse t <;> rfl

theorem Group.log_add (interval : Number) (g : Group) (o : Occurrence) :
    (g.add interval o).2 = o.unreadable?.toList.map .unreadableTimestamp := by
  rw [add, Occurrence.unreadable?]
  cases o.timestamp with
  | none => rfl
  | some t =>
    refine (Timestamp.log_isRedundant interval t g.timestamps).trans ?_
    rw [Option.filter_some]
    split_ifs <;> rfl

namespace Grouping

/-- One call warns if its key is there already. -/
theorem log_record (interval : Number) (source : Text) (o : Occurrence) (groups : Grouping) :
    (record interval source o groups).log =
      if o.key ∈ keys groups then o.unreadable?.toList.map .unreadableTimestamp else [] := by
  induction groups with
  | nil => rfl
  | cons g rest ih =>
    rw [record, keys, List.map_cons, ← keys]
    by_cases hKey : g.key = o.key
    · simp [hKey, g.log_add interval o]
    · simp [hKey, Ne.symm hKey, ih]

theorem recordAll_append (interval : Number) (source : Text) (groups : Grouping)
    (os more : List Occurrence) :
    recordAll interval source groups (os ++ more) =
      let front := recordAll interval source groups os
      let back := recordAll interval source front.1 more
      (back.1, front.2 ++ back.2) := by
  induction os generalizing groups with
  | nil => rfl
  | cons o rest ih => simp [recordAll, ih]

theorem mem_keys_recordAll {interval : Number} {source k : Text} {os : List Occurrence} :
    k ∈ keys (recordAll interval source [] os).1 ↔ k ∈ os.map Occurrence.key := by
  rw [recordAll_groups, ← ofCalls, keys_ofCalls, List.mem_eraseDups, List.map_map]
  rfl

/-- A run warns of the unreadable timestamps of the occurrences that repeat a key, in their order. -/
theorem log_recordAll (interval : Number) (source : Text) (os : List Occurrence) :
    (recordAll interval source [] os).2 =
      ((Occurrence.repeats os).filterMap Occurrence.unreadable?).map .unreadableTimestamp := by
  -- The last occurrence is split off: whether it warns depends on all those before it.
  induction os using List.reverseRecOn with
  | nil => rfl
  | append_singleton os o ih =>
    rw [recordAll_append]
    simp only [recordAll, List.append_nil, ih, log_record, mem_keys_recordAll]
    rw [Occurrence.repeats_concat, List.filterMap_append, List.map_append]
    split_ifs with hSeen
    · cases hUnreadable : o.unreadable? <;> simp [hUnreadable]
    · rfl

end Grouping
end LogTriage
