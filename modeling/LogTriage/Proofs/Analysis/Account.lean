import LogTriage.Proofs.Analysis.Guarded
import LogTriage.Proofs.Grouping.Warnings

/-! # The account of a run

An analysis goes through its rules one by one and through the matches of each, and says on the way what it
cannot read. Step by step this is what an analysis of the whole text does at once. Its log is an account of
it: the warnings in the order of the matches, and one entry at the end that counts matches and events.
-/

namespace LogTriage

set_option autoImplicit false

namespace Analysis

variable {content source : Text} {rules : List Rule} {settings : Settings} {result : Result}

/-! ## Settings in range -/

def KeepInRange (keep : Number) : Prop := ∃ n : Nat, 1 ≤ n ∧ keep = .finite n

def IntervalInRange (interval : Number) : Prop := ∃ q : Rat, 0 ≤ q ∧ interval = .finite q

theorem isSome_positive?_iff {x : Number} : x.positive?.isSome = true ↔ KeepInRange x := by
  simp only [Option.isSome_iff_exists, Number.positive?_eq_some_iff, KeepInRange, and_comm]

theorem isSome_nonNegative?_iff {x : Number} : x.nonNegative?.isSome = true ↔ IntervalInRange x := by
  simp only [Option.isSome_iff_exists, Number.nonNegative?_eq_some_iff, IntervalInRange, and_comm]

instance (keep : Number) : Decidable (KeepInRange keep) := decidable_of_iff _ isSome_positive?_iff

instance (interval : Number) : Decidable (IntervalInRange interval) :=
  decidable_of_iff _ isSome_nonNegative?_iff

def badOptions (settings : Settings) : List Text :=
  (if KeepInRange settings.keep then [] else [Text.ofString "numTimestamps"]) ++
    if IntervalInRange settings.interval then [] else [Text.ofString "collapseIntervalSeconds"]

theorem check_cases (settings : Settings) :
    (badOptions settings = [] ∧ ∃ limits, Limits.check settings.keep settings.interval = .ok limits) ∨
      badOptions settings ≠ [] ∧ ∃ faults, Limits.check settings.keep settings.interval = .error faults ∧
        (refusal faults).issues.map (·.path) = badOptions settings := by
  rw [badOptions, Limits.check]
  simp only [← isSome_positive?_iff, ← isSome_nonNegative?_iff]
  cases settings.keep.positive? <;> cases settings.interval.nonNegative? <;> simp [refusal, Fault.issue]

/-! ## Step by step -/

inductive Action where
  | scan (rule : Rule)
  | log (entry : LogEntry)

def Action.rule? : Action → Option Rule
  | scan rule => some rule
  | log _ => none

def Action.entry? : Action → Option LogEntry
  | scan _ => none
  | log entry => some entry

def scanned (actions : List Action) : List Rule := actions.filterMap Action.rule?

def logged (actions : List Action) : List LogEntry := actions.filterMap Action.entry?

/-- What has been found and done so far. -/
structure Progress where
  groups : Grouping := []
  ungrouped : List Event := []
  matchCount : Nat := 0
  actions : List Action := []

namespace Progress

def onMatch (source : Text) (settings : Settings) (p : Progress) (o : Occurrence) : Progress :=
  if settings.group then
    let r := Grouping.record settings.interval source o p.groups
    { p with
      groups := r.groups
      matchCount := p.matchCount + 1
      actions := p.actions ++ r.log.map .log }
  else { p with ungrouped := p.ungrouped ++ [o.event source], matchCount := p.matchCount + 1 }

def onRule (content source : Text) (settings : Settings) (p : Progress) (rule : Rule) : Progress :=
  (Occurrence.ofRule settings.stamps content rule).foldl (onMatch source settings)
    { p with actions := p.actions ++ [.scan rule] }

end Progress

/-- An analysis as it goes on: what it does, in order, and what comes of it. -/
def perform (content source : Text) (rules : List Rule) (settings : Settings) :
    List Action × Except (List Fault) (List Event) :=
  match Limits.check settings.keep settings.interval with
  | .error faults => ([], .error faults)
  | .ok limits =>
    let p := rules.foldl (Progress.onRule content source settings) {}
    let pending := if settings.group then p.groups.length else p.ungrouped.length
    let events := if settings.group then groupedEvents limits p.groups else p.ungrouped
    (p.actions ++ [.log (.analysisComplete source rules.length p.matchCount pending settings.group)],
      .ok events)

namespace Progress

/-- The matches met so far are `os`, and those of all rules in `rules`. -/
structure Has (source : Text) (settings : Settings) (rules : List Rule) (os : List Occurrence)
    (p : Progress) : Prop where
  groups : settings.group = true → p.groups = (Grouping.recordAll settings.interval source [] os).1
  ungrouped : settings.group = false → p.ungrouped = ungroupedEvents source os
  matchCount : p.matchCount = os.length
  logged : logged p.actions =
    if settings.group then (Grouping.recordAll settings.interval source [] os).2 else []
  scanned : scanned p.actions = rules

variable {p : Progress} {os : List Occurrence}

theorem has_start : ({} : Progress).Has source settings [] [] where
  groups _ := rfl
  ungrouped _ := rfl
  matchCount := rfl
  logged := by
    rw [Grouping.recordAll, ite_self]
    rfl
  scanned := rfl

theorem logged_append_log (actions : List Action) (entries : List LogEntry) :
    Analysis.logged (actions ++ entries.map .log) = Analysis.logged actions ++ entries := by
  have hEntries : Action.entry? ∘ Action.log = some := rfl
  rw [Analysis.logged, List.filterMap_append, List.filterMap_map, hEntries, List.filterMap_some]
  rfl

theorem scanned_append_log (actions : List Action) (entries : List LogEntry) :
    Analysis.scanned (actions ++ entries.map .log) = Analysis.scanned actions := by
  have hNone : Action.rule? ∘ Action.log = fun _ => none := rfl
  rw [Analysis.scanned, List.filterMap_append, List.filterMap_map, hNone, List.filterMap_none,
    List.append_nil]
  rfl

theorem Has.onMatch (h : p.Has source settings rules os) (o : Occurrence) :
    (p.onMatch source settings o).Has source settings rules (os ++ [o]) := by
  rw [Progress.onMatch]
  cases hGroup : settings.group with
  | true =>
    have hLogged := h.logged
    rw [hGroup, if_pos rfl] at hLogged
    rw [if_pos rfl]
    refine ⟨fun _ => ?_, fun hNot => ?_, ?_, ?_, ?_⟩
    · rw [h.groups hGroup, Grouping.recordAll_append]
      rfl
    · rw [hGroup] at hNot
      cases hNot
    · rw [h.matchCount, List.length_append, List.length_singleton]
    · -- What this match is warned of depends on the groups that all matches before it have made.
      rw [logged_append_log, hLogged, h.groups hGroup, hGroup, if_pos rfl, Grouping.recordAll_append]
      simp [Grouping.recordAll]
    · rw [scanned_append_log, h.scanned]
  | false =>
    rw [if_neg Bool.false_ne_true]
    refine ⟨fun hNot => ?_, fun _ => ?_, ?_, ?_, h.scanned⟩
    · rw [hGroup] at hNot
      cases hNot
    · rw [h.ungrouped hGroup, ungroupedEvents, ungroupedEvents, List.map_append, List.map_singleton]
    · rw [h.matchCount, List.length_append, List.length_singleton]
    · have hLogged := h.logged
      rw [hGroup, if_neg Bool.false_ne_true] at hLogged
      rw [hLogged, hGroup, if_neg Bool.false_ne_true]

theorem Has.onRule (h : p.Has source settings rules os) (rule : Rule) :
    (p.onRule content source settings rule).Has source settings (rules ++ [rule])
      (os ++ Occurrence.ofRule settings.stamps content rule) := by
  have hScan : Has source settings (rules ++ [rule]) os { p with actions := p.actions ++ [.scan rule] } :=
    { h with
      logged := by
        rw [← h.logged, Analysis.logged, List.filterMap_append]
        exact List.append_nil _
      scanned := by
        rw [Analysis.scanned, List.filterMap_append]
        exact congrArg (· ++ [rule]) h.scanned }
  rw [Progress.onRule]
  generalize Occurrence.ofRule settings.stamps content rule = found
  -- The matches of the rule come behind those of the rules before it, one at a time.
  induction found using List.reverseRecOn with
  | nil => simpa using hScan
  | append_singleton found o ih =>
    rw [List.foldl_append, ← List.append_assoc]
    exact ih.onMatch o

theorem has_onRules (content source : Text) (settings : Settings) (rules : List Rule) :
    (rules.foldl (onRule content source settings) {}).Has source settings rules
      (Occurrence.all settings.stamps content rules) := by
  induction rules using List.reverseRecOn with
  | nil => exact has_start
  | append_singleton rules rule ih =>
    rw [List.foldl_append, Occurrence.all_append]
    have hOne : Occurrence.all settings.stamps content [rule] =
        Occurrence.ofRule settings.stamps content rule := List.flatMap_singleton _ _
    rw [hOne]
    exact ih.onRule rule

end Progress

/-! ## The log -/

/-- The timestamps that a run warns of: those that cannot be read, of matches whose key an earlier match
has. Nothing is compared where nothing is grouped. -/
def warned (content : Text) (rules : List Rule) (settings : Settings) : List Text :=
  if settings.group then
    (Occurrence.repeats (Occurrence.all settings.stamps content rules)).filterMap Occurrence.unreadable?
  else []

def matchCount (content : Text) (rules : List Rule) : Nat :=
  (rules.map fun rule => (rule.pattern.scan content).length).sum

theorem length_all (stamps : Pattern) (content : Text) (rules : List Rule) :
    (Occurrence.all stamps content rules).length = matchCount content rules := by
  simp only [Occurrence.all, List.length_flatMap, Occurrence.ofRule, List.length_map, matchCount]

theorem log_within (limits : Limits) (group : Bool) (stamps : Pattern) (content source : Text)
    (rules : List Rule) : (within limits group stamps content source rules).log =
      (if group then (Grouping.recordAll (.finite limits.interval) source []
        (Occurrence.all stamps content rules)).2 else []) ++
      [.analysisComplete source rules.length (matchCount content rules)
        (within limits group stamps content source rules).events.length group] := by
  rw [← length_all stamps]
  cases group <;> rfl

theorem sum_count_within {limits : Limits} (hKeep : 1 ≤ limits.keep) (group : Bool) (stamps : Pattern)
    (content source : Text) (rules : List Rule) :
    ((within limits group stamps content source rules).events.map (·.count)).sum =
      matchCount content rules := by
  rw [← length_all stamps]
  cases group with
  | true =>
    rw [events_within_grouped, (groupsBy_groupedEvents limits hKeep _ source _).total, ungroupedEvents,
      List.length_map]
  | false =>
    rw [events_within_ungrouped, sum_count_ungroupedEvents]

/-! ## Step by step and at once -/

theorem Progress.Has.events {p : Progress} {limits : Limits}
    (h : p.Has source settings rules (Occurrence.all settings.stamps content rules))
    (hInterval : settings.interval = .finite limits.interval) :
    (if settings.group then groupedEvents limits p.groups else p.ungrouped) =
      (within limits settings.group settings.stamps content source rules).events := by
  cases hGroup : settings.group with
  | true =>
    rw [if_pos rfl, h.groups hGroup, hInterval, recordAll_eq_groupsOf, events_within_grouped]
  | false =>
    rw [if_neg Bool.false_ne_true, h.ungrouped hGroup, events_within_ungrouped]

theorem Progress.Has.pending {p : Progress} {limits : Limits}
    (h : p.Has source settings rules (Occurrence.all settings.stamps content rules))
    (hInterval : settings.interval = .finite limits.interval) :
    (if settings.group then p.groups.length else p.ungrouped.length) =
      (within limits settings.group settings.stamps content source rules).events.length := by
  rw [← h.events hInterval]
  split_ifs
  · rw [groupedEvents, List.length_map]
  · rfl

/-- Going through the rules one by one gives what a run gives, and does no more than to scan them in their
order and to write the log. -/
theorem perform_eq (h : run content source rules settings = .ok result) :
    ∃ actions, perform content source rules settings = (actions, .ok result.events) ∧
      logged actions = result.log ∧ scanned actions = rules := by
  obtain ⟨limits, hCheck, rfl⟩ := run_eq_ok_iff.mp h
  obtain ⟨-, hInterval, -⟩ := Limits.check_eq_ok_iff.mp hCheck
  have hHas := Progress.has_onRules content source settings rules
  rw [perform, hCheck]
  dsimp only
  generalize rules.foldl (Progress.onRule content source settings) {} = p at hHas ⊢
  rw [hHas.events hInterval, hHas.pending hInterval, hHas.matchCount]
  let note : LogEntry := .analysisComplete source rules.length
    (Occurrence.all settings.stamps content rules).length
    (within limits settings.group settings.stamps content source rules).events.length settings.group
  refine ⟨_, rfl, ?_, ?_⟩
  · have hLogged := Progress.logged_append_log p.actions [note]
    rw [hHas.logged, hInterval] at hLogged
    rw [log_within, ← length_all settings.stamps]
    exact hLogged
  · exact (Progress.scanned_append_log p.actions [note]).trans hHas.scanned

/-- An analysis with options out of range does nothing and names them. Any other logs a warning for every
match that repeats a key under a timestamp that cannot be read, and at the end the number of matches, which
is what the events count together, and the number of events. -/
theorem run_account (content source : Text) (rules : List Rule) (settings : Settings) :
    (badOptions settings ≠ [] → ∃ faults,
      run content source rules settings = .error faults ∧
      (refusal faults).issues.map (·.path) = badOptions settings ∧
      perform content source rules settings = ([], .error faults)) ∧
    (badOptions settings = [] → ∃ result actions,
      run content source rules settings = .ok result ∧
      perform content source rules settings = (actions, .ok result.events) ∧
      logged actions = result.log ∧ scanned actions = rules ∧
      result.log = (warned content rules settings).map .unreadableTimestamp ++
        [.analysisComplete source rules.length (matchCount content rules) result.events.length
          settings.group] ∧
      (result.events.map (·.count)).sum = matchCount content rules) := by
  rcases check_cases settings with ⟨hNone, limits, hCheck⟩ | ⟨hSome, faults, hCheck, hPaths⟩
  · refine ⟨fun hSome => absurd hNone hSome, fun _ => ?_⟩
    have hRun : run content source rules settings =
        .ok (within limits settings.group settings.stamps content source rules) :=
      run_eq_ok_iff.mpr ⟨limits, hCheck, rfl⟩
    obtain ⟨actions, hPerform, hLogged, hScanned⟩ := perform_eq hRun
    obtain ⟨hKeep, -, -⟩ := Limits.check_eq_ok_iff.mp hCheck
    refine ⟨_, actions, hRun, hPerform, hLogged, hScanned, ?_,
      sum_count_within (Number.positive?_eq_some_iff.mp hKeep).2 _ _ content source rules⟩
    rw [log_within, warned, Grouping.log_recordAll]
    split_ifs <;> rfl
  · refine ⟨fun _ => ⟨faults, ?_, hPaths, ?_⟩, fun hNone => absurd hNone hSome⟩
    · rw [run, hCheck]
      rfl
    · rw [perform, hCheck]

/-- There is no thirteenth month. -/
def misdated : Text := Text.ofString "2024-13-07T10:03:00,0-04:00"

def misdatedLog : Text :=
  misdated ++ Text.ofString " Out of memory\n" ++ (misdated ++ Text.ofString " Out of memory")

/-- Two matches of one key are under a date that there is not, and the second is warned of. With no limit
and no interval nothing is done. -/
theorem run_account_misdatedLog :
    (badOptions {} = [] ∧ ∃ result : Result,
      run misdatedLog (Text.ofString "dmesg") [Rule.outOfMemory] {} = .ok result ∧
      result.log = [.unreadableTimestamp misdated,
        .analysisComplete (Text.ofString "dmesg") 1 2 result.events.length true] ∧
      (result.events.map (·.count)).sum = 2) ∧
    badOptions { keep := .finite 0, interval := .nan } ≠ [] ∧ ∃ faults,
      run misdatedLog (Text.ofString "dmesg") [Rule.outOfMemory] { keep := .finite 0, interval := .nan } =
        .error faults ∧
      (refusal faults).issues.map (·.path) =
        [Text.ofString "numTimestamps", Text.ofString "collapseIntervalSeconds"] ∧
      perform misdatedLog (Text.ofString "dmesg") [Rule.outOfMemory]
        { keep := .finite 0, interval := .nan } = ([], .error faults) := by
  have hInRange : badOptions {} = [] := by decide +kernel
  have hOutOfRange : badOptions { keep := .finite 0, interval := .nan } =
      [Text.ofString "numTimestamps", Text.ofString "collapseIntervalSeconds"] := by decide +kernel
  have hWarned : warned misdatedLog [Rule.outOfMemory] {} = [misdated] := by decide +kernel
  have hCount : matchCount misdatedLog [Rule.outOfMemory] = 2 := by decide +kernel
  have hSome : badOptions { keep := .finite 0, interval := .nan } ≠ [] := by
    rw [hOutOfRange]
    exact List.cons_ne_nil _ _
  obtain ⟨result, actions, hRun, -, -, -, hLog, hSum⟩ :=
    (run_account misdatedLog (Text.ofString "dmesg") [Rule.outOfMemory] {}).2 hInRange
  obtain ⟨faults, hError, hPaths, hPerform⟩ := (run_account misdatedLog (Text.ofString "dmesg")
    [Rule.outOfMemory] { keep := .finite 0, interval := .nan }).1 hSome
  rw [hWarned, hCount] at hLog
  exact ⟨⟨hInRange, result, hRun, hLog, hSum.trans hCount⟩, hSome, faults, hError, hPaths.trans hOutOfRange,
    hPerform⟩

end Analysis
end LogTriage
