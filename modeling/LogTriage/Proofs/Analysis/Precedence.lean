import LogTriage.Proofs.Analysis.GroupBy

/-! # Rules of lower precedence

Rules that are put behind others leave alone what those report. Ungrouped, their events follow the
earlier ones. Grouped, an earlier event keeps its place and its classification; it may count more, and
its timestamps go on where they ended. A new event has a key that no earlier event has.
-/

namespace LogTriage

set_option autoImplicit false

namespace Timestamp

/-- The front of a pruned list is still there when the list has grown and is pruned again. -/
theorem take_prune_isPrefix (keep : Nat) {ts more : List Text} (h : ts <+: more) :
    (prune keep ts).take keep <+: prune keep more := by
  have hTake : ts.take keep <+: more.take keep := by
    obtain ⟨rest, rfl⟩ := h
    rw [List.take_append]
    exact List.prefix_append _ _
  rw [take_prune (Nat.le_refl keep)]
  rw [← take_prune (Nat.le_refl keep) more] at hTake
  exact hTake.trans (List.take_prefix keep _)

end Timestamp

namespace Group

/-- The same group at a later time. -/
structure Extends (g h : Group) : Prop where
  rule : h.rule = g.rule
  content : h.content = g.content
  source : h.source = g.source
  count : g.count ≤ h.count
  timestamps : g.timestamps <+: h.timestamps

theorem Extends.refl (g : Group) : g.Extends g :=
  ⟨rfl, rfl, rfl, Nat.le_refl _, List.prefix_rfl⟩

theorem Extends.trans {f g h : Group} (hfg : f.Extends g) (hgh : g.Extends h) : f.Extends h where
  rule := hgh.rule.trans hfg.rule
  content := hgh.content.trans hfg.content
  source := hgh.source.trans hfg.source
  count := Nat.le_trans hfg.count hgh.count
  timestamps := hfg.timestamps.trans hgh.timestamps

theorem extends_add (interval : Number) (g : Group) (o : Occurrence) :
    g.Extends (g.add interval o).1 := by
  obtain ⟨added, hEq, -⟩ :=
    Timestamp.selectFrom_eq_append interval g.timestamps o.timestamp.toList
  rw [add_eq, hEq]
  exact ⟨rfl, rfl, rfl, Nat.le_succ g.count, List.prefix_append _ _⟩

end Group

namespace Grouping

/-- Every group is still there, in its place. -/
def Extends (groups later : Grouping) : Prop :=
  ∀ (i : Nat) (g : Group), groups[i]? = some g → ∃ h : Group, later[i]? = some h ∧ g.Extends h

theorem Extends.refl (groups : Grouping) : groups.Extends groups := by
  intro i g hg
  exact ⟨g, hg, .refl g⟩

theorem Extends.trans {first second third : Grouping} (h : first.Extends second)
    (h' : second.Extends third) : first.Extends third := by
  intro i f hf
  obtain ⟨g, hg, hfg⟩ := h i f hf
  obtain ⟨k, hk, hgk⟩ := h' i g hg
  exact ⟨k, hk, hfg.trans hgk⟩

/-- One call touches at most one group and leaves the others where they are. -/
theorem extends_record (interval : Number) (source : Text) (o : Occurrence) (groups : Grouping) :
    groups.Extends (record interval source o groups).groups := by
  induction groups with
  | nil =>
    intro i g hg
    simp at hg
  | cons d rest ih =>
    intro i g hg
    rw [record]
    split_ifs with hKey
    · cases i with
      | zero =>
        obtain rfl : d = g := by simpa using hg
        exact ⟨(d.add interval o).1, rfl, d.extends_add interval o⟩
      | succ i => exact ⟨g, hg, .refl g⟩
    · cases i with
      | zero => exact ⟨g, hg, .refl g⟩
      | succ i => exact ih i g hg

/-- Further calls only add to the groups that earlier calls have made. -/
theorem ofCalls_extends (interval : Number) (calls more : List Call) :
    (ofCalls interval calls).Extends (ofCalls interval (calls ++ more)) := by
  induction more using List.reverseRecOn with
  | nil =>
    rw [List.append_nil]
    exact .refl _
  | append_singleton more c ih =>
    rw [← List.append_assoc, ofCalls_concat]
    exact ih.trans (extends_record interval c.source c.occurrence _)

end Grouping

namespace Event

/-- The same event when more has been analysed: classified alike, counting no less, and showing the
first `keep` of its timestamps before any others. -/
structure Extends (keep : Nat) (e d : Event) : Prop where
  sameMatch : e.SameMatch d
  count : e.count ≤ d.count
  timestamps : (e.timestamps?.getD []).take keep <+: d.timestamps?.getD []

theorem timestamps?_getD {e : Event} {ts : List Text} (h : e.times = .ofGroup ts) :
    e.timestamps?.getD [] = ts := by
  rw [timestamps?, h]
  cases ts <;> rfl

end Event

namespace Analysis

/-- What more rules may do to the events of a grouped analysis. -/
structure Refines (keep : Nat) (before after : List Event) : Prop where
  kept : ∀ (i : Nat) (e : Event), before[i]? = some e →
    ∃ d : Event, after[i]? = some d ∧ e.Extends keep d
  fresh : ∀ d ∈ after.drop before.length, d.key ∉ before.map Event.key

theorem extends_event {limits : Limits} {g h : Group} (hExtends : g.Extends h) :
    (g.event (Timestamp.prune limits.keep)).Extends limits.keep
      (h.event (Timestamp.prune limits.keep)) where
  sameMatch :=
    ⟨congrArg Rule.category hExtends.rule.symm, congrArg Rule.severity hExtends.rule.symm,
      congrArg Rule.message hExtends.rule.symm, hExtends.content.symm, hExtends.source.symm⟩
  count := hExtends.count
  timestamps := by
    rw [Event.timestamps?_getD rfl, Event.timestamps?_getD rfl]
    exact Timestamp.take_prune_isPrefix limits.keep hExtends.timestamps

theorem refines_of_nodup {keep : Nat} {before after : List Event}
    (kept : ∀ (i : Nat) (e : Event), before[i]? = some e →
      ∃ d : Event, after[i]? = some d ∧ e.Extends keep d)
    (hNodup : (after.map Event.key).Nodup) : Refines keep before after where
  kept := kept
  fresh := by
    -- A key of an earlier event stands in its place already, so it cannot stand further behind.
    intro d hd hMem
    obtain ⟨e, he, hKey⟩ := List.mem_map.mp hMem
    obtain ⟨i, hi, rfl⟩ := List.mem_iff_getElem.mp he
    obtain ⟨j, hj, rfl⟩ := List.mem_iff_getElem.mp hd
    obtain ⟨c, hc, hExtends⟩ := kept i before[i] (List.getElem?_eq_getElem hi)
    have hSame : before[i].key = c.key := congrArg MatchContent.key hExtends.sameMatch.2.2.2.1
    obtain ⟨hLess, rfl⟩ := List.getElem?_eq_some_iff.mp hc
    rw [List.length_drop] at hj
    rw [hSame, List.getElem_drop] at hKey
    have hFront : i < (after.map Event.key).length := by rwa [List.length_map]
    have hBack : before.length + j < (after.map Event.key).length := by
      rw [List.length_map]
      omega
    have hEq : (after.map Event.key)[i] = (after.map Event.key)[before.length + j] := by
      rw [List.getElem_map, List.getElem_map]
      exact hKey
    have hIndex : i = before.length + j := hNodup.getElem_inj_iff.mp hEq
    omega

theorem refines_within (limits : Limits) (stamps : Pattern) (content source : Text)
    (first more : List Rule) :
    Refines limits.keep (within limits true stamps content source first).events
      (within limits true stamps content source (first ++ more)).events := by
  rw [events_within_grouped, events_within_grouped]
  apply refines_of_nodup
  · intro i e he
    rw [groupedEvents, List.getElem?_map] at he
    obtain ⟨g, hg, rfl⟩ := Option.map_eq_some_iff.mp he
    have hExtends := Grouping.ofCalls_extends (.finite limits.interval)
      ((Occurrence.all stamps content first).map (Grouping.Call.mk source))
      ((Occurrence.all stamps content more).map (Grouping.Call.mk source))
    rw [← List.map_append, ← Occurrence.all_append] at hExtends
    obtain ⟨h, hh, hExtends⟩ := hExtends i g hg
    refine ⟨h.event (Timestamp.prune limits.keep), ?_, extends_event hExtends⟩
    rw [groupedEvents, List.getElem?_map, groupsOf, hh]
    rfl
  · rw [keys_groupedEvents]
    exact Grouping.keys_ofCalls_nodup _ _

theorem events_within_append (limits : Limits) (stamps : Pattern) (content source : Text)
    (first more : List Rule) :
    (within limits false stamps content source (first ++ more)).events =
      (within limits false stamps content source first).events ++
        (within limits false stamps content source more).events := by
  simp only [events_within_ungrouped, Occurrence.all_append, ungroupedEvents, List.map_append]

/-- Rules that follow others neither reclassify nor reorder what those report. -/
theorem run_append (content source : Text) (first more : List Rule) (stamps : Pattern) (keep : Nat)
    (interval : Rat) (hKeep : 1 ≤ keep) (hInterval : 0 ≤ interval) :
    (∃ before after : Result,
      run content source first ⟨false, .finite keep, .finite interval, stamps⟩ = .ok before ∧
      run content source (first ++ more) ⟨false, .finite keep, .finite interval, stamps⟩ =
        .ok after ∧
      before.events <+: after.events) ∧
    ∃ before after : Result,
      run content source first ⟨true, .finite keep, .finite interval, stamps⟩ = .ok before ∧
      run content source (first ++ more) ⟨true, .finite keep, .finite interval, stamps⟩ =
        .ok after ∧
      Refines keep before.events after.events := by
  have hRun (group : Bool) (rules : List Rule) :
      run content source rules ⟨group, .finite keep, .finite interval, stamps⟩ =
        .ok (within ⟨keep, interval⟩ group stamps content source rules) := by
    rw [run, check_finite hKeep hInterval]
    rfl
  constructor
  · refine ⟨_, _, hRun false first, hRun false (first ++ more), ?_⟩
    rw [events_within_append]
    exact List.prefix_append _ _
  · exact ⟨_, _, hRun true first, hRun true (first ++ more),
      refines_within ⟨keep, interval⟩ stamps content source first more⟩

/-- The panic is counted with the memory error that the rule in front finds in it. -/
theorem run_append_panic :
    1 ≤ 3 ∧ (0 : Rat) ≤ 60 ∧ ∃ before after : Result,
      run (Text.ofString "Kernel panic - not syncing: Out of memory") (Text.ofString "dmesg")
        [Rule.outOfMemory] ⟨true, .finite (3 : Nat), .finite 60, Timestamp.usualPattern⟩ =
          .ok before ∧
      run (Text.ofString "Kernel panic - not syncing: Out of memory") (Text.ofString "dmesg")
        [Rule.outOfMemory, Rule.kernelPanic] ⟨true, .finite (3 : Nat), .finite 60,
          Timestamp.usualPattern⟩ = .ok after ∧
      before.events.map (·.count) = [1] ∧ after.events.map (·.count) = [2] ∧
      Refines 3 before.events after.events := by
  obtain ⟨-, before, after, hBefore, hAfter, hRefines⟩ :=
    run_append (Text.ofString "Kernel panic - not syncing: Out of memory") (Text.ofString "dmesg")
      [Rule.outOfMemory] [Rule.kernelPanic] Timestamp.usualPattern 3 60 (by decide) (by decide)
  refine ⟨by decide, by decide, before, after, hBefore, hAfter, ?_, ?_, hRefines⟩
  · obtain rfl := Except.ok.inj hBefore
    decide +kernel
  · obtain rfl := Except.ok.inj hAfter
    decide +kernel

end Analysis
end LogTriage
