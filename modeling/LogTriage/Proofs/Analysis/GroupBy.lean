import LogTriage.Analysis
import LogTriage.Proofs.Grouping.ByKey
import LogTriage.Proofs.Number.Bounds
import LogTriage.Proofs.Pattern.Scan
import LogTriage.Proofs.Timestamp.Pruning
import LogTriage.Rule.Kernel

/-! # Grouped and ungrouped analysis

An analysis run with grouping makes the events that one gets from the ungrouped ones by taking those of
one key together. `GroupsBy` says what that means, event by event and without any state.
-/

namespace LogTriage

set_option autoImplicit false

namespace Event

def key (e : Event) : Text := e.content.key

def timestamp? (e : Event) : Option Text :=
  match e.times with
  | .ofMatch t => t
  | .ofGroup _ => none

/-- The list of timestamps that an event shows; an empty one is not shown. -/
def timestamps? (e : Event) : Option (List Text) :=
  match e.times with
  | .ofGroup [] => none
  | .ofGroup ts => some ts
  | .ofMatch _ => none

/-- Alike in all but count and times. -/
def SameMatch (e d : Event) : Prop :=
  e.category = d.category ∧ e.severity = d.severity ∧ e.description = d.description ∧
    e.content = d.content ∧ e.source = d.source

end Event

namespace Analysis

/-- `groups` are the events of `all`, those of one key taken together. -/
structure GroupsBy (all groups : List Event) : Prop where
  keys : groups.map Event.key = (all.map Event.key).eraseDups
  distinct : (groups.map Event.key).Nodup
  first : ∀ g ∈ groups, ∃ e, all.find? (·.key = g.key) = some e ∧ g.SameMatch e
  count : ∀ g ∈ groups, g.count = all.countP (·.key = g.key)
  total : (groups.map (·.count)).sum = all.length
  shown : ∀ g ∈ groups, g.timestamps?.isSome ↔ ∃ e ∈ all, e.key = g.key ∧ e.timestamp?.isSome
  entries : ∀ g ∈ groups, ∀ ts, g.timestamps? = some ts →
    ∀ t ∈ ts, ∃ e ∈ all, e.key = g.key ∧ e.timestamp? = some t
  firstEntry : ∀ g ∈ groups, ∀ ts, g.timestamps? = some ts →
    ts.head? = ((all.filter (·.key = g.key)).filterMap Event.timestamp?).head?

theorem ungroupedEvents_filter (source : Text) (os : List Occurrence) (k : Text) :
    (ungroupedEvents source os).filter (·.key = k) =
      ungroupedEvents source (os.filter (·.key = k)) := by
  rw [ungroupedEvents, ungroupedEvents, List.filter_map]
  rfl

theorem sum_count_ungroupedEvents (source : Text) (os : List Occurrence) :
    ((ungroupedEvents source os).map (·.count)).sum = os.length := by
  have hOne : Event.count ∘ Occurrence.event source = fun _ => 1 := rfl
  rw [ungroupedEvents, List.map_map, hOne, List.map_const', List.sum_replicate_nat, Nat.mul_one]

theorem filterMap_timestamp?_ungroupedEvents (source : Text) (os : List Occurrence) :
    (ungroupedEvents source os).filterMap Event.timestamp? = os.filterMap (·.timestamp) := by
  rw [ungroupedEvents, List.filterMap_map]
  rfl

def groupsOf (interval : Number) (source : Text) (os : List Occurrence) : Grouping :=
  Grouping.ofCalls interval (os.map (Grouping.Call.mk source))

theorem recordAll_eq_groupsOf (interval : Number) (source : Text) (os : List Occurrence) :
    (Grouping.recordAll interval source [] os).1 = groupsOf interval source os :=
  Grouping.recordAll_groups interval source [] os

def listed (limits : Limits) (interval : Number) (os : List Occurrence) : List Text :=
  Timestamp.prune limits.keep (Timestamp.select interval (os.filterMap (·.timestamp)))

theorem listed_sublist (limits : Limits) (interval : Number) (os : List Occurrence) :
    (listed limits interval os).Sublist (os.filterMap (·.timestamp)) :=
  (Timestamp.prune_sublist _ _).trans (Timestamp.select_sublist _ _)

theorem listed_head? {limits : Limits} (hKeep : 1 ≤ limits.keep) (interval : Number)
    (os : List Occurrence) :
    (listed limits interval os).head? = (os.filterMap (·.timestamp)).head? :=
  (Timestamp.prune_head? hKeep _).trans (Timestamp.select_head? interval _)

theorem eq_of_mem_groupedEvents {limits : Limits} {interval : Number} {source : Text}
    {os : List Occurrence} {g : Event}
    (h : g ∈ groupedEvents limits (groupsOf interval source os)) :
    ∃ o rest, os.filter (·.key = g.key) = o :: rest ∧
      g = ⟨o.rule.category, o.rule.severity, o.rule.message, o.content, source,
        (o :: rest).length, .ofGroup (listed limits interval (o :: rest))⟩ := by
  obtain ⟨d, hd, rfl⟩ := List.mem_map.mp h
  have hOf := Grouping.groupOf_of_mem interval hd
  have hFilter : (os.map (Grouping.Call.mk source)).filter (·.key = d.key) =
      (os.filter (·.key = d.key)).map (Grouping.Call.mk source) := by
    rw [List.filter_map]
    rfl
  rw [hFilter] at hOf
  cases hOs : os.filter (·.key = d.key) with
  | nil => simp [hOs, Grouping.groupOf] at hOf
  | cons o rest =>
    rw [hOs, List.map_cons, Grouping.groupOf_eq, ← List.map_cons, List.flatMap_map,
      List.length_map, Option.some.injEq] at hOf
    refine ⟨o, rest, hOs, ?_⟩
    rw [← hOf, listed, List.filterMap_eq_flatMap_toList]
    rfl

theorem keys_groupedEvents (limits : Limits) (interval : Number) (source : Text)
    (os : List Occurrence) :
    (groupedEvents limits (groupsOf interval source os)).map Event.key =
      (groupsOf interval source os).keys := by
  rw [groupedEvents, List.map_map]
  rfl

theorem timestamps?_isSome {e : Event} {ts : List Text} (h : e.times = .ofGroup ts) :
    e.timestamps?.isSome ↔ ts.head?.isSome := by
  rw [Event.timestamps?, h]
  cases ts <;> simp

theorem eq_of_timestamps? {e : Event} {ts shown : List Text} (h : e.times = .ofGroup ts)
    (hShown : e.timestamps? = some shown) : shown = ts := by
  rw [Event.timestamps?, h] at hShown
  cases ts with
  | nil => simp at hShown
  | cons t ts => exact (Option.some.inj hShown).symm

theorem times_of_mem_groupedEvents {limits : Limits} (hKeep : 1 ≤ limits.keep) {interval : Number}
    {source : Text} {os : List Occurrence} {g : Event}
    (h : g ∈ groupedEvents limits (groupsOf interval source os)) :
    ∃ ts, g.times = .ofGroup ts ∧
      ts.Sublist (((ungroupedEvents source os).filter (·.key = g.key)).filterMap Event.timestamp?) ∧
      ts.head? =
        (((ungroupedEvents source os).filter (·.key = g.key)).filterMap Event.timestamp?).head? := by
  obtain ⟨o, rest, hOs, hEq⟩ := eq_of_mem_groupedEvents h
  rw [ungroupedEvents_filter, filterMap_timestamp?_ungroupedEvents, hOs]
  exact ⟨listed limits interval (o :: rest), by rw [hEq], listed_sublist limits interval _,
    listed_head? hKeep interval _⟩

theorem groupsBy_groupedEvents (limits : Limits) (hKeep : 1 ≤ limits.keep) (interval : Number)
    (source : Text) (os : List Occurrence) :
    GroupsBy (ungroupedEvents source os)
      (groupedEvents limits (groupsOf interval source os)) where
  keys := by
    rw [keys_groupedEvents, groupsOf, Grouping.keys_ofCalls, ungroupedEvents, List.map_map,
      List.map_map]
    rfl
  distinct := by
    rw [keys_groupedEvents]
    exact Grouping.keys_ofCalls_nodup interval _
  first g hg := by
    obtain ⟨o, rest, hOs, hEq⟩ := eq_of_mem_groupedEvents hg
    refine ⟨o.event source, ?_, ?_⟩
    · rw [← List.head?_filter, ungroupedEvents_filter, hOs]
      rfl
    · rw [hEq]
      exact ⟨rfl, rfl, rfl, rfl, rfl⟩
  count g hg := by
    obtain ⟨o, rest, hOs, hEq⟩ := eq_of_mem_groupedEvents hg
    rw [List.countP_eq_length_filter, ungroupedEvents_filter, hOs, ungroupedEvents,
      List.length_map, hEq]
  total := by
    rw [groupedEvents, List.map_map, ungroupedEvents, List.length_map]
    refine (Grouping.sum_count_ofCalls interval _).trans ?_
    rw [List.length_map]
  shown g hg := by
    obtain ⟨ts, hTimes, -, hHead⟩ := times_of_mem_groupedEvents hKeep hg
    rw [timestamps?_isSome hTimes, hHead, List.isSome_head?]
    simp [List.filterMap_eq_nil_iff, Option.isSome_iff_ne_none]
  entries g hg ts hTs t ht := by
    obtain ⟨all, hTimes, hSub, -⟩ := times_of_mem_groupedEvents hKeep hg
    rw [eq_of_timestamps? hTimes hTs] at ht
    obtain ⟨e, he, hStamp⟩ := List.mem_filterMap.mp (hSub.subset ht)
    obtain ⟨he, hKey⟩ := List.mem_filter.mp he
    exact ⟨e, he, by simpa using hKey, hStamp⟩
  firstEntry g hg ts hTs := by
    obtain ⟨all, hTimes, -, hHead⟩ := times_of_mem_groupedEvents hKeep hg
    rw [eq_of_timestamps? hTimes hTs, hHead]

theorem events_within_grouped (limits : Limits) (stamps : Pattern) (content source : Text)
    (rules : List Rule) :
    (within limits true stamps content source rules).events =
      groupedEvents limits
        (groupsOf (.finite limits.interval) source (Occurrence.all stamps content rules)) := by
  rw [← recordAll_eq_groupsOf]
  rfl

theorem events_within_ungrouped (limits : Limits) (stamps : Pattern) (content source : Text)
    (rules : List Rule) :
    (within limits false stamps content source rules).events =
      ungroupedEvents source (Occurrence.all stamps content rules) := rfl

def matchEvent (stamps : Pattern) (content source : Text) (rule : Rule) (m : Pattern.Found) : Event :=
  ⟨rule.category, rule.severity, rule.message, MatchContent.ofMatch m.text m.groups, source, 1,
    .ofMatch (Timestamp.extract stamps content m.index)⟩

theorem check_finite {keep : Nat} {interval : Rat} (hKeep : 1 ≤ keep) (hInterval : 0 ≤ interval) :
    Limits.check (.finite keep) (.finite interval) = .ok ⟨keep, interval⟩ := by
  have hPositive : (Number.finite keep).positive? = some keep :=
    Number.positive?_eq_some_iff.mpr ⟨rfl, hKeep⟩
  have hNonNegative : (Number.finite interval).nonNegative? = some interval :=
    Number.nonNegative?_eq_some_iff.mpr ⟨rfl, hInterval⟩
  rw [Limits.check, hPositive, hNonNegative]

theorem run_eq_within {keep : Nat} {interval : Rat} (hKeep : 1 ≤ keep) (hInterval : 0 ≤ interval)
    (group : Bool) (stamps : Pattern) (content source : Text) (rules : List Rule) :
    run content source rules ⟨group, .finite keep, .finite interval, stamps⟩ =
      .ok (within ⟨keep, interval⟩ group stamps content source rules) := by
  rw [run, check_finite hKeep hInterval]
  rfl

/-- With limits in range an analysis succeeds either way. Ungrouped it has one event for every match, the
rules in their order and the matches of each from left to right; grouped it has these events taken
together by key. -/
theorem run_groupsBy (content source : Text) (rules : List Rule) (stamps : Pattern) (keep : Nat)
    (interval : Rat) (hKeep : 1 ≤ keep) (hInterval : 0 ≤ interval) :
    ∃ ungrouped grouped : Result,
      run content source rules ⟨false, .finite keep, .finite interval, stamps⟩ = .ok ungrouped ∧
      run content source rules ⟨true, .finite keep, .finite interval, stamps⟩ = .ok grouped ∧
      ungrouped.events = rules.flatMap (fun rule =>
        (rule.pattern.scan content).map (matchEvent stamps content source rule)) ∧
      (∀ rule ∈ rules, (rule.pattern.scan content).Pairwise fun m n =>
        m.index < n.index ∧ m.stop.index ≤ n.index) ∧
      GroupsBy ungrouped.events grouped.events := by
  refine ⟨within ⟨keep, interval⟩ false stamps content source rules,
    within ⟨keep, interval⟩ true stamps content source rules, ?_, ?_, ?_, ?_, ?_⟩
  · rw [run, check_finite hKeep hInterval]
    rfl
  · rw [run, check_finite hKeep hInterval]
    rfl
  · simp only [within, Bool.false_eq_true, if_false, ungroupedEvents, Occurrence.all,
      List.map_flatMap, Occurrence.ofRule, List.map_map]
    rfl
  · intro rule _
    exact Pattern.scan_pairwise rule.pattern content
  · rw [events_within_grouped]
    exact groupsBy_groupedEvents ⟨keep, interval⟩ hKeep (.finite interval) source _

/-- Two rules match the same text here, so two events become one. -/
theorem run_groupsBy_panic :
    1 ≤ 3 ∧ (0 : Rat) ≤ 60 ∧ ∃ ungrouped grouped : Result,
      run (Text.ofString "Kernel panic - not syncing: Out of memory") (Text.ofString "dmesg")
        [Rule.outOfMemory, Rule.kernelPanic] ⟨false, .finite (3 : Nat), .finite 60,
          Timestamp.usualPattern⟩ = .ok ungrouped ∧
      run (Text.ofString "Kernel panic - not syncing: Out of memory") (Text.ofString "dmesg")
        [Rule.outOfMemory, Rule.kernelPanic] ⟨true, .finite (3 : Nat), .finite 60,
          Timestamp.usualPattern⟩ = .ok grouped ∧
      ungrouped.events.length = 2 ∧ GroupsBy ungrouped.events grouped.events := by
  obtain ⟨ungrouped, grouped, hUngrouped, hGrouped, hEvents, -, hGroups⟩ :=
    run_groupsBy (Text.ofString "Kernel panic - not syncing: Out of memory") (Text.ofString "dmesg")
      [Rule.outOfMemory, Rule.kernelPanic] Timestamp.usualPattern 3 60 (by decide) (by decide)
  refine ⟨by decide, by decide, ungrouped, grouped, hUngrouped, hGrouped, ?_, hGroups⟩
  rw [hEvents, List.length_flatMap]
  simp only [List.length_map]
  decide +kernel

end Analysis
end LogTriage
