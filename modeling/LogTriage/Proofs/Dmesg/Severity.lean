import LogTriage.Dmesg.Report
import LogTriage.Proofs.Rule.Collisions

/-! # What grouping does to severity

Grouping lowers the severity of a base match only where the match is overruled. So the status of a report
differs between the two modes only where every error is an uncorrectable fault that is overruled.
-/

namespace LogTriage

set_option autoImplicit false

namespace Status

theorem ofEvents_eq_error_iff (events : List Event) :
    ofEvents events = .error ↔ ∃ e ∈ events, e.severity.isAtLeast .error = true := by
  rw [ofEvents, ofSeverities]
  split_ifs with hError hWarning
  · simpa using hError
  · simpa using hError
  · simpa using hError

theorem ofEvents_of_warnings {events : List Event}
    (hWarnings : ∀ e ∈ events, e.severity.isAtLeast .warning = true)
    (hNone : ofEvents events ≠ .error) :
    ofEvents events = if events = [] then .ok else .warning := by
  rw [Ne, ofEvents_eq_error_iff] at hNone
  have hSeverity (e : Event) (he : e ∈ events) : e.severity = .warning := by
    have hLow := hWarnings e he
    have hHigh : e.severity.isAtLeast .error ≠ true := fun h => hNone ⟨e, he, h⟩
    cases hCase : e.severity with
    | warning => rfl
    | info => simp [hCase, Priority.isAtLeast, Priority.rank] at hLow
    | error => simp [hCase, Priority.isAtLeast, Priority.rank] at hHigh
    | critical => simp [hCase, Priority.isAtLeast, Priority.rank] at hHigh
  have hNoError : ¬(events.map (·.severity)).any (·.isAtLeast .error) = true := by
    simpa using hNone
  rw [ofEvents, ofSeverities, if_neg hNoError]
  cases events with
  | nil => rfl
  | cons e rest => simp [hSeverity e List.mem_cons_self]

end Status

namespace Dmesg

open Rule

/-- A base rule of an error or worse matches. -/
def Severe (content : Text) : Prop :=
  ∃ r ∈ kernelBase, r.severity.isAtLeast .error = true ∧ ∃ c, Matches content r c

/-- One does that is not an uncorrectable fault with the content of a correctable one. -/
def ShownSevere (content : Text) : Prop :=
  ∃ r ∈ kernelBase, r.severity.isAtLeast .error = true ∧
    ∃ c, Matches content r c ∧ ¬(r = uncorrectable ∧ Matches content correctable c)

/-- The arguments without custom rules and excluded categories. -/
def bare (args : Args) (group : Bool) : Args :=
  { args with patterns := [], excluded := [], group := group }

/-- The status of a report with the base rules alone and no category left out. -/
def baseStatus (args : Args) (group : Bool) (content : Text) : Status :=
  (report kernelBase (bare args group) content).report.status

variable {limits : Analysis.Limits} {stamps : Pattern} {content source : Text} {args : Args}
  {group : Bool}

theorem exists_severe_ungrouped_iff :
    (∃ e ∈ (Analysis.within limits false stamps content source kernelBase).events,
      e.severity.isAtLeast .error = true) ↔ Severe content := by
  constructor
  · rintro ⟨e, he, hSevere⟩
    obtain ⟨r, hr, hSeverity, hMatch⟩ := Analysis.severity_of_mem_within he
    exact ⟨r, hr, hSeverity ▸ hSevere, _, hMatch⟩
  · rintro ⟨r, hr, hSevere, c, hMatch⟩
    obtain ⟨e, he, -, hSeverity⟩ := Analysis.exists_mem_within_ungrouped hr hMatch
    exact ⟨e, he, hSeverity ▸ hSevere⟩

theorem exists_severe_grouped_iff :
    (∃ e ∈ (Analysis.within limits true stamps content source kernelBase).events,
      e.severity.isAtLeast .error = true) ↔ ShownSevere content := by
  constructor
  · rintro ⟨e, he, hSevere⟩
    obtain ⟨q, hFirst, hSeverity, -⟩ := Analysis.isFirst_of_mem_within he
    have hq : q ∈ kernelBase := hFirst.mem
    refine ⟨q, hq, hSeverity ▸ hSevere, e.content, hFirst.matches_self, fun hOverruled => ?_⟩
    exact (isAtLeast_iff_not_overruled hFirst hq hFirst.matches_self).mp (by simp [Priority.isAtLeast])
      (.inl hOverruled)
  · rintro ⟨r, hr, hSevere, c, hMatch, hNot⟩
    have hMem : ∃ e ∈ (Analysis.within limits true stamps content source kernelBase).events,
        e.content = c := Analysis.exists_mem_within hr hMatch
    obtain ⟨e, he, rfl⟩ := hMem
    obtain ⟨q, hFirst, hSeverity, -⟩ := Analysis.isFirst_of_mem_within he
    refine ⟨e, he, ?_⟩
    rw [hSeverity]
    rcases first_cases hFirst hr hMatch with hAtLeast | ⟨rfl, rfl⟩ | ⟨hLeading, -⟩
    · simp only [Priority.isAtLeast, decide_eq_true_eq] at hSevere hAtLeast ⊢
      omega
    · exact absurd ⟨rfl, hFirst.matches_self⟩ hNot
    · rw [(error_of_mem_leading q hLeading).2]
      rfl

/-! ## Reports -/

theorem severity_of_unknownError {e : Event}
    (h : e ∈ (Analysis.within limits group stamps content source [unknownError]).events) :
    e.severity = .warning := by
  obtain ⟨r, hr, hSeverity, -⟩ := Analysis.severity_of_mem_within h
  rw [hSeverity, List.mem_singleton.mp hr]
  rfl

theorem keptEvents_of_excluded (hNone : args.excluded = []) (events : List Event) :
    keptEvents args events = events := by
  simp [keptEvents, hNone]

/-- Rules that compile lead to the events of the analysis, less the excluded ones. -/
theorem report_of_compose {base rules : List Rule} (h : RawRule.compose args.patterns base = .ok rules) :
    (report base args content).report =
      Report.ofEvents (keptEvents args (analyse args rules (scope args content).1).events) := by
  rw [report, h]

/-- The events of both passes of a report that uses the base rules alone. -/
def baseEvents (args : Args) (group : Bool) (searched : Text) : List Event :=
  (analyse (bare args group) kernelBase searched).events

theorem baseStatus_eq :
    baseStatus args group content =
      Status.ofEvents (baseEvents args group (scope args content).1) := by
  have hCompose : RawRule.compose (bare args group).patterns kernelBase = .ok kernelBase := rfl
  rw [baseStatus, report_of_compose hCompose, keptEvents_of_excluded rfl]
  rfl

theorem mem_baseEvents_iff {e : Event} :
    e ∈ baseEvents args group content ↔
      e ∈ (Analysis.within args.limits group Timestamp.usualPattern content Report.source
        kernelBase).events ∨
      args.reportUnknown = true ∧
        e ∈ (Analysis.within args.limits group Timestamp.usualPattern
          (Coverage.uncovered content kernelBase) Report.source [unknownError]).events := by
  rw [baseEvents, analyse]
  cases hUnknown : args.reportUnknown with
  | true => simp [hUnknown, bare, Args.limits]
  | false => simp [hUnknown, bare, Args.limits]

theorem exists_severe_baseEvents_iff :
    (∃ e ∈ baseEvents args group content, e.severity.isAtLeast .error = true) ↔
      ∃ e ∈ (Analysis.within args.limits group Timestamp.usualPattern content Report.source
        kernelBase).events, e.severity.isAtLeast .error = true := by
  constructor
  · rintro ⟨e, he, hSevere⟩
    rcases mem_baseEvents_iff.mp he with hKnown | ⟨-, hUnknown⟩
    · exact ⟨e, hKnown, hSevere⟩
    · rw [severity_of_unknownError hUnknown] at hSevere
      exact absurd hSevere (by decide)
  · rintro ⟨e, he, hSevere⟩
    exact ⟨e, mem_baseEvents_iff.mpr (.inl he), hSevere⟩

theorem warning_le_of_mem_baseEvents {e : Event} (h : e ∈ baseEvents args group content) :
    e.severity.isAtLeast .warning = true := by
  rcases mem_baseEvents_iff.mp h with hKnown | ⟨-, hUnknown⟩
  · obtain ⟨r, hr, hSeverity, -⟩ := Analysis.severity_of_mem_within hKnown
    rw [hSeverity]
    exact warning_le_of_mem_kernelBase r hr
  · rw [severity_of_unknownError hUnknown]
    rfl

theorem baseEvents_eq_nil_iff (other : Bool) :
    baseEvents args group content = [] ↔ baseEvents args other content = [] := by
  have hNil (group : Bool) : baseEvents args group content = [] ↔
      (∀ r ∈ kernelBase, ∀ c, ¬Matches content r c) ∧ (args.reportUnknown = true →
        ∀ r ∈ [unknownError], ∀ c, ¬Matches (Coverage.uncovered content kernelBase) r c) := by
    rw [baseEvents, analyse]
    cases hUnknown : args.reportUnknown with
    | true => simp [hUnknown, bare, Args.limits, Analysis.events_within_eq_nil_iff]
    | false => simp [hUnknown, bare, Args.limits, Analysis.events_within_eq_nil_iff]
  rw [hNil, hNil]

theorem baseStatus_ungrouped_eq_error_iff :
    baseStatus args false content = .error ↔ Severe (scope args content).1 := by
  rw [baseStatus_eq, Status.ofEvents_eq_error_iff, exists_severe_baseEvents_iff,
    exists_severe_ungrouped_iff]

theorem baseStatus_grouped_eq_error_iff :
    baseStatus args true content = .error ↔ ShownSevere (scope args content).1 := by
  rw [baseStatus_eq, Status.ofEvents_eq_error_iff, exists_severe_baseEvents_iff,
    exists_severe_grouped_iff]

/-- A status short of an error does not depend on grouping. -/
theorem baseStatus_of_ne_error (hNot : baseStatus args group content ≠ .error) :
    baseStatus args group content =
      if baseEvents args true (scope args content).1 = [] then .ok else .warning := by
  rw [baseStatus_eq] at hNot ⊢
  rw [Status.ofEvents_of_warnings (fun e he => warning_le_of_mem_baseEvents he) hNot]
  simp only [baseEvents_eq_nil_iff true]

theorem Severe.of_shown (h : ShownSevere content) : Severe content := by
  obtain ⟨r, hr, hSevere, c, hMatch, -⟩ := h
  exact ⟨r, hr, hSevere, c, hMatch⟩

theorem baseEvents_ne_nil (h : Severe content) : baseEvents args true content ≠ [] := by
  obtain ⟨e, he, -⟩ := exists_severe_baseEvents_iff.mpr (exists_severe_ungrouped_iff.mpr h)
  intro hNil
  rw [(baseEvents_eq_nil_iff false).mp hNil] at he
  exact absurd he List.not_mem_nil

theorem baseStatus_eq_or_hidden :
    baseStatus args true content = baseStatus args false content ∨
      baseStatus args true content = .warning ∧ baseStatus args false content = .error := by
  by_cases hGrouped : baseStatus args true content = .error
  · have hSevere := Severe.of_shown (baseStatus_grouped_eq_error_iff.mp hGrouped)
    rw [hGrouped, baseStatus_ungrouped_eq_error_iff.mpr hSevere]
    exact .inl rfl
  · rw [baseStatus_of_ne_error hGrouped]
    by_cases hUngrouped : baseStatus args false content = .error
    · have hSevere := baseStatus_ungrouped_eq_error_iff.mp hUngrouped
      rw [if_neg (baseEvents_ne_nil hSevere)]
      exact .inr ⟨rfl, hUngrouped⟩
    · exact .inl (baseStatus_of_ne_error hUngrouped).symm

/-- Every match of a base rule is counted by one grouped event, which is as severe as the rule unless
the match is overruled. Grouping changes the status only where every error is an uncorrectable fault
with the content of a correctable one, and then to a warning. -/
theorem grouped_severity (limits : Analysis.Limits) (stamps : Pattern) (content source : Text)
    (args : Args) :
    (∀ r ∈ kernelBase, ∀ m ∈ r.pattern.scan content,
      ∃ e ∈ (Analysis.within limits true stamps content source kernelBase).events,
        e.content = m.content ∧
        (∀ d ∈ (Analysis.within limits true stamps content source kernelBase).events,
          d.content = m.content → d = e) ∧
        e.count = (Analysis.contents content kernelBase).count m.content ∧
        (e.severity.isAtLeast r.severity = true ↔ ¬Overruled content r m.content)) ∧
    (baseStatus args false content = .error ↔ Severe (scope args content).1) ∧
    (baseStatus args true content = .error ↔ ShownSevere (scope args content).1) ∧
    (baseStatus args true content = baseStatus args false content ∨
      baseStatus args true content = .warning ∧ baseStatus args false content = .error) := by
  refine ⟨fun r hr m hm => ?_, baseStatus_ungrouped_eq_error_iff, baseStatus_grouped_eq_error_iff,
    baseStatus_eq_or_hidden⟩
  have hMatch : Matches content r m.content := ⟨m, hm, rfl⟩
  obtain ⟨e, he, hContent⟩ := Analysis.exists_mem_within hr hMatch
  obtain ⟨q, hFirst, hSeverity, hCount⟩ := Analysis.isFirst_of_mem_within he
  rw [hContent] at hFirst hCount
  refine ⟨e, he, hContent, fun d hd hEq => ?_, hCount, ?_⟩
  · exact Analysis.eq_of_content_eq hd he (hEq.trans hContent.symm)
  · rw [hSeverity]
    exact isAtLeast_iff_not_overruled hFirst hr hMatch

/-- Three correctable faults and then three uncorrectable ones in the same block. -/
def mixedFaults : Text :=
  Text.ofString "3 correctable hardware errors detected in total in umc block\n3 uncorrectable hardware errors detected in umc block"

/-- The uncorrectable fault goes into an event of lower severity, and the report ends with a warning. -/
theorem mixedFaults_hidden :
    ¬(∀ r ∈ kernelBase, ∀ m ∈ r.pattern.scan mixedFaults,
      ∀ e ∈ (Analysis.within Args.default.limits true Timestamp.usualPattern mixedFaults
        Report.source kernelBase).events,
        e.content = m.content → e.severity.isAtLeast r.severity = true) ∧
    baseStatus Args.default true mixedFaults = .warning ∧
    baseStatus Args.default false mixedFaults = .error := by
  decide +kernel

/-- Here the correctable fault classifies both matches. -/
theorem grouped_severity_mixedFaults :
    ∃ m ∈ correctable.pattern.scan mixedFaults,
      ∃ e ∈ (Analysis.within Args.default.limits true Timestamp.usualPattern mixedFaults
        Report.source kernelBase).events,
        e.content = m.content ∧ e.severity.isAtLeast .warning = true := by
  have hScan : 0 < (correctable.pattern.scan mixedFaults).length := by decide +kernel
  have hNot (c : MatchContent) : ¬Overruled mixedFaults correctable c := by
    rintro (⟨hEq, -⟩ | ⟨hEq, -⟩)
    · exact absurd hEq (by decide +kernel)
    · exact absurd hEq (by decide +kernel)
  obtain ⟨m, hm⟩ := List.exists_mem_of_length_pos hScan
  obtain ⟨e, he, hContent, -, -, hSeverity⟩ :=
    (grouped_severity Args.default.limits Timestamp.usualPattern mixedFaults Report.source
      Args.default).1 correctable (by simp [kernelBase]) m hm
  exact ⟨m, hm, e, he, hContent, hSeverity.mpr (hNot _)⟩

end Dmesg
end LogTriage
