import LogTriage.Proofs.Grouping.ByKey
import LogTriage.Proofs.Timestamp.Widening

/-! # The interval and the groups

The interval decides which timestamps a group lists and nothing else about it.
-/

namespace LogTriage

set_option autoImplicit false

namespace Group

/-- All of a group but its timestamps: its key, its classification, its source and its count. -/
def unstamped (g : Group) : Group := { g with timestamps := [] }

theorem unstamped_key (g : Group) : g.unstamped.key = g.key := rfl

theorem unstamped_add (interval : Number) (g : Group) (o : Occurrence) :
    (g.add interval o).1.unstamped = { g.unstamped with count := g.unstamped.count + 1 } := by
  rw [add_eq]
  rfl

end Group

namespace Grouping

/-- One call, given to groupings that differ in their timestamps, leaves them so. -/
theorem map_unstamped_record (i j : Number) (source : Text) (o : Occurrence)
    {groups groups' : Grouping} (h : groups.map Group.unstamped = groups'.map Group.unstamped) :
    (record i source o groups).groups.map Group.unstamped =
      (record j source o groups').groups.map Group.unstamped := by
  induction groups generalizing groups' with
  | nil =>
    obtain rfl : groups' = [] := List.map_eq_nil_iff.mp h.symm
    rfl
  | cons g rest ih =>
    cases groups' with
    | nil => cases h
    | cons g' rest' =>
      obtain ⟨hHead, hRest⟩ := List.cons.inj h
      have hKey : g.key = g'.key := by
        rw [← g.unstamped_key, hHead, g'.unstamped_key]
      rw [record, record, hKey]
      split_ifs
      · simp only [List.map_cons, Group.unstamped_add, hHead, hRest]
      · simp only [List.map_cons, hHead, ih hRest]

theorem map_unstamped_ofCalls (i j : Number) (calls : List Call) :
    (ofCalls i calls).map Group.unstamped = (ofCalls j calls).map Group.unstamped := by
  induction calls using List.reverseRecOn with
  | nil => rfl
  | append_singleton calls c ih =>
    rw [ofCalls_concat, ofCalls_concat]
    exact map_unstamped_record i j c.source c.occurrence ih

/-- A wider interval leaves every group as it was but for its timestamps, of which none lists more. It
may list others than the narrower one. -/
theorem recorded_length_antitone :
    (∀ (i j : Rat) (calls : List Call), i ≤ j →
      (ofCalls (.finite j) calls).map Group.unstamped =
        (ofCalls (.finite i) calls).map Group.unstamped ∧
      ∀ k, (recorded k (ofCalls (.finite j) calls)).length ≤
        (recorded k (ofCalls (.finite i) calls)).length) ∧
    ∃ (i j : Rat) (calls : List Call) (k : Text), i ≤ j ∧
      ¬ recorded k (ofCalls (.finite j) calls) ⊆ recorded k (ofCalls (.finite i) calls) ∧
      ¬ recorded k (ofCalls (.finite i) calls) ⊆ recorded k (ofCalls (.finite j) calls) := by
  constructor
  · intro i j calls h
    refine ⟨map_unstamped_ofCalls _ _ calls, ?_⟩
    intro k
    rw [recorded_ofCalls, recorded_ofCalls]
    exact Timestamp.length_select_antitone h (stampsOf k calls)
  · refine ⟨10, 20, [callOf "a" "2024-10-07T10:17:00Z", callOf "a" "2024-10-07T10:17:15Z",
      callOf "a" "2024-10-07T10:17:22Z"], (callOf "a" "").key, by decide, ?_⟩
    decide +kernel

/-- Calls out of order, one of whose timestamps cannot be read and one of which names no offset. -/
theorem recorded_length_antitone_unordered :
    (0 : Rat) ≤ 10 ∧ (10 : Rat) ≤ 20 ∧
    (recorded (callOf "a" "").key (ofCalls (.finite 20)
        [callOf "a" "2024-10-07T10:17:22Z", callOf "a" "yesterday", callOf "a" "2024-10-07T10:17:00Z",
          callOf "a" "2024-10-07T10:17:15", callOf "a" "2024-10-07T10:17:11Z"])).length ≤
      (recorded (callOf "a" "").key (ofCalls (.finite 10)
        [callOf "a" "2024-10-07T10:17:22Z", callOf "a" "yesterday", callOf "a" "2024-10-07T10:17:00Z",
          callOf "a" "2024-10-07T10:17:15", callOf "a" "2024-10-07T10:17:11Z"])).length := by
  have hWider : (10 : Rat) ≤ 20 := by decide
  exact ⟨by decide, hWider, (recorded_length_antitone.1 10 20 _ hWider).2 _⟩

end Grouping
end LogTriage
