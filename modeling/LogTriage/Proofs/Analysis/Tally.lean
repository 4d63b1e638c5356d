import LogTriage.Proofs.Analysis.GroupBy

/-! # Counting by key

The events of an analysis stand for as many matches of a key as the rules have in the text, be the events
grouped or not.
-/

namespace LogTriage

set_option autoImplicit false

namespace Analysis

/-- The matches of one key that some events stand for. -/
def tally (k : Text) (events : List Event) : Nat := ((events.filter (·.key = k)).map (·.count)).sum

theorem countP_ungroupedEvents (k source : Text) (os : List Occurrence) :
    (ungroupedEvents source os).countP (·.key = k) = os.countP (·.key = k) := by
  rw [ungroupedEvents, List.countP_map]
  rfl

theorem tally_ungroupedEvents (k source : Text) (os : List Occurrence) :
    tally k (ungroupedEvents source os) = os.countP (·.key = k) := by
  rw [tally, ungroupedEvents_filter, sum_count_ungroupedEvents, List.countP_eq_length_filter]

theorem filter_key_of_mem {groups : List Event} (hDistinct : (groups.map Event.key).Nodup) {g : Event}
    (h : g ∈ groups) : groups.filter (·.key = g.key) = [g] := by
  obtain ⟨before, after, rfl⟩ := List.append_of_mem h
  rw [List.map_append, List.map_cons, List.nodup_middle, List.nodup_cons, ← List.map_append] at hDistinct
  have hOthers : (before ++ after).filter (·.key = g.key) = [] := by
    apply List.filter_eq_nil_iff.mpr
    intro d hd hSame
    rw [← of_decide_eq_true hSame] at hDistinct
    exact hDistinct.1 (List.mem_map_of_mem hd)
  rw [List.filter_append, List.append_eq_nil_iff] at hOthers
  rw [List.filter_append, hOthers.1, List.nil_append, List.filter_cons_of_pos (by simp), hOthers.2]

/-- Grouped events stand for as many matches of a key as there are. -/
theorem GroupsBy.tally_eq {all groups : List Event} (h : GroupsBy all groups) (k : Text) :
    tally k groups = all.countP (·.key = k) := by
  by_cases hKey : k ∈ groups.map Event.key
  · obtain ⟨g, hg, rfl⟩ := List.mem_map.mp hKey
    rw [tally, filter_key_of_mem h.distinct hg, List.map_singleton, List.sum_singleton, h.count g hg]
  · have hNoGroup : ∀ g ∈ groups, ¬ decide (g.key = k) = true := by
      intro g hg hSame
      exact hKey (of_decide_eq_true hSame ▸ List.mem_map_of_mem hg)
    have hNone : ∀ e ∈ all, ¬ decide (e.key = k) = true := by
      intro e he hSame
      rw [h.keys, List.mem_eraseDups, ← of_decide_eq_true hSame] at hKey
      exact hKey (List.mem_map_of_mem he)
    rw [tally, List.filter_eq_nil_iff.mpr hNoGroup, List.countP_eq_zero.mpr hNone]
    rfl

theorem tally_within (limits : Limits) (hKeep : 1 ≤ limits.keep) (group : Bool) (stamps : Pattern)
    (content source : Text) (rules : List Rule) (k : Text) :
    tally k (within limits group stamps content source rules).events =
      (Occurrence.all stamps content rules).countP (·.key = k) := by
  cases group with
  | false => exact tally_ungroupedEvents k source _
  | true =>
    rw [events_within_grouped, (groupsBy_groupedEvents limits hKeep _ source _).tally_eq]
    exact countP_ungroupedEvents k source _

end Analysis

end LogTriage
