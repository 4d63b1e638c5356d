import LogTriage.Proofs.Dmesg.Args
import LogTriage.Proofs.Dmesg.Guarded
import LogTriage.Proofs.Dmesg.Severity
import LogTriage.Proofs.Rule.Composition
import Mathlib.Data.Option.Basic

/-! # Complete reports

Accepted arguments pass the checks of both analyses of a report, so for every content and all base rules a
report is made, or the engine gives up on the way. Unless a custom rule does not compile, the report has the
events of both analyses that are not excluded, and its status is that of these events. Nothing but such a
rule is logged as an error.
-/

namespace LogTriage

set_option autoImplicit false

namespace Status

/-- The status is that of the most severe event. -/
theorem ofEvents_eq (events : List Event) :
    ofEvents events =
      if ∃ e ∈ events, e.severity.isAtLeast .error = true then .error
      else if ∃ e ∈ events, e.severity.isAtLeast .warning = true then .warning
      else .ok := by
  split_ifs with hError hWarning
  · exact (ofEvents_eq_error_iff events).mpr hError
  · obtain ⟨e, he, hAtLeast⟩ := hWarning
    have hSeverity : e.severity = .warning := by
      have hLow : e.severity.isAtLeast .error ≠ true := fun h => hError ⟨e, he, h⟩
      cases hCase : e.severity <;> simp_all [Priority.isAtLeast, Priority.rank]
    rw [ofEvents, ofSeverities, if_neg (by simpa using hError), if_pos]
    simpa using ⟨e, he, hSeverity⟩
  · rw [ofEvents, ofSeverities, if_neg (by simpa using hError), if_neg]
    intro hContains
    obtain ⟨e, he, hSeverity⟩ : ∃ e ∈ events, e.severity = .warning := by simpa using hContains
    exact hWarning ⟨e, he, by rw [hSeverity]; rfl⟩

theorem ofEvents_ne_executionFailure (events : List Event) : ofEvents events ≠ .executionFailure := by
  rw [ofEvents_eq]
  split_ifs <;> exact nofun

end Status

/-! ## What is logged -/

namespace LogEntry

/-- Nothing in a log is an error. -/
def Quiet (log : List LogEntry) : Prop := ∀ entry ∈ log, entry.level ≠ "error"

theorem Quiet.append {log more : List LogEntry} (h : Quiet log) (hMore : Quiet more) :
    Quiet (log ++ more) := by
  intro entry hEntry
  rcases List.mem_append.mp hEntry with hLog | hRest
  · exact h entry hLog
  · exact hMore entry hRest

theorem quiet_nil : Quiet [] := by simp [Quiet]

theorem quiet_complete {source : Text} {ruleCount matchCount eventCount : Nat} {group : Bool} :
    Quiet [.analysisComplete source ruleCount matchCount eventCount group] := by
  simp [Quiet, level]

theorem quiet_isRedundant (interval : Number) (new : Text) (recorded : List Text) :
    Quiet (Timestamp.isRedundant interval new recorded).2 := by
  rw [Timestamp.isRedundant]
  split
  · simp [Quiet, level]
  · exact quiet_nil

theorem quiet_record (interval : Number) (source : Text) (o : Occurrence) (groups : Grouping) :
    Quiet (Grouping.record interval source o groups).log := by
  induction groups with
  | nil => exact quiet_nil
  | cons g rest ih =>
    rw [Grouping.record]
    split_ifs
    · simp only [Group.add]
      split
      · exact quiet_nil
      · exact quiet_isRedundant interval _ _
    · exact ih

theorem quiet_recordAll (interval : Number) (source : Text) (groups : Grouping)
    (occurrences : List Occurrence) :
    Quiet (Grouping.recordAll interval source groups occurrences).2 := by
  induction occurrences generalizing groups with
  | nil => exact quiet_nil
  | cons o rest ih => exact (quiet_record interval source o groups).append (ih _)

theorem quiet_within (limits : Analysis.Limits) (group : Bool) (stamps : Pattern)
    (content source : Text) (rules : List Rule) :
    Quiet (Analysis.within limits group stamps content source rules).log := by
  cases group with
  | false => exact quiet_nil.append quiet_complete
  | true => exact (quiet_recordAll _ _ _ _).append quiet_complete

end LogEntry

namespace Dmesg

variable {e : Engine} {args : Args} {base rules : List Rule} {content : Text}

/-! ## Range -/

/-- The instants that the bounds of the arguments name, one for each bound that is given. -/
structure Names (args : Args) (start stop : Option Rat) : Prop where
  start : args.rangeStart.Rel (fun t instant => Timestamp.parse t = some instant) start
  stop : args.rangeEnd.Rel (fun t instant => Timestamp.parse t = some instant) stop

def searched (start stop : Option Rat) (content : Text) : Text :=
  if start = none ∧ stop = none then content else filterRange start stop content

theorem rel_bind {bound : Option Text} (h : ∀ t ∈ bound, (Timestamp.parse t).isSome = true) :
    bound.Rel (fun t instant => Timestamp.parse t = some instant) (bound.bind Timestamp.parse) := by
  cases bound with
  | none => exact .none
  | some t =>
    obtain ⟨instant, hParse⟩ := Option.isSome_iff_exists.mp (h t rfl)
    rw [Option.bind_some, hParse]
    exact .some hParse

/-- Bounds of accepted arguments are never passed over. -/
theorem exists_names (hSound : args.IsSound) (content : Text) :
    ∃ start stop, Names args start stop ∧ (scope args content).1 = searched start stop content := by
  refine ⟨_, _, ⟨rel_bind hSound.rangeStart, rel_bind hSound.rangeEnd⟩, ?_⟩
  rw [scope, searched]
  cases args.rangeStart.bind Timestamp.parse <;> cases args.rangeEnd.bind Timestamp.parse <;> simp

/-! ## Outcomes -/

/-- A report on a text that leaves out nothing but the excluded categories. -/
structure Complete (args : Args) (rules : List Rule) (text : Text) (shown : Report) : Prop where
  events : shown.events =
    ((args.pass text rules).events ++
      if args.reportUnknown then (args.unknown text rules).events else []).filter
        fun e => e.category ∉ args.excluded
  status : shown.status =
    if ∃ e ∈ shown.events, e.severity.isAtLeast .error = true then .error
    else if ∃ e ∈ shown.events, e.severity.isAtLeast .warning = true then .warning
    else .ok

theorem complete_of_compose (h : RawRule.compose args.patterns base = .ok rules) (content : Text) :
    Complete args rules (scope args content).1 (report base args content).report := by
  rw [report_of_compose h]
  refine ⟨?_, Status.ofEvents_eq _⟩
  rw [Report.ofEvents, keptEvents, analyse]
  cases args.reportUnknown <;> simp [Args.pass, Args.unknown]

theorem report_of_refused {e : RuleError} (h : RawRule.compose args.patterns base = .error e)
    (content : Text) :
    report base args content =
      ⟨Report.ofRuleError e, (scope args content).2 ++ [.badCustomPattern e.issues]⟩ := by
  rw [report, h]

theorem status_ne_executionFailure (h : RawRule.compose args.patterns base = .ok rules)
    (content : Text) : (report base args content).report.status ≠ .executionFailure := by
  rw [report_of_compose h]
  exact Status.ofEvents_ne_executionFailure _

theorem quiet_scope (args : Args) (content : Text) : LogEntry.Quiet (scope args content).2 := by
  rw [scope]
  split_ifs
  · simp [LogEntry.Quiet, LogEntry.level]
  · exact LogEntry.quiet_nil

theorem quiet_report (h : RawRule.compose args.patterns base = .ok rules) (content : Text) :
    LogEntry.Quiet (report base args content).log := by
  have hPass (text : Text) (rules : List Rule) : LogEntry.Quiet (args.pass text rules).log :=
    LogEntry.quiet_within _ _ _ _ _ _
  rw [report, h]
  refine (quiet_scope args content).append ?_
  rw [analyse]
  split_ifs
  · exact (hPass _ rules).append (hPass _ [Rule.unknownError])
  · exact hPass _ rules

/-- What a report comes to. Only the engine stands in the way of making it; it does so if it gives up the
search for some rule at once, or the call with the errors nobody knows. Only a custom rule that does not
compile stands in the way of a complete report. -/
structure Settles (e : Engine) (base : List Rule) (args : Args) (content : Text) : Prop where
  made : guardedReport e base args content = .ok (report base args content) ∨
    ∃ failure, GivesUp e base args content failure ∧
      guardedReport e base args content = .error (.engine failure)
  lost : ∀ rules, RawRule.compose args.patterns base = .ok rules →
    (∃ rule ∈ rules, (e.search (rule.pattern.copy true) (scope args content).1 0).isSome) ∨
      (args.reportUnknown = true ∧
        (e.call (args.unknown (scope args content).1 rules).events.length).isSome) →
    ∃ failure, guardedReport e base args content = .error (.engine failure)
  refused : (∃ raw ∈ args.patterns, ¬raw.Compiles) →
    (report base args content).report.status = .executionFailure ∧
      (report base args content).report.events = []
  ran : (∀ raw ∈ args.patterns, raw.Compiles) → ∃ rules start stop,
    RawRule.Compiled args.patterns rules ∧ Names args start stop ∧
      Complete args (rules ++ base) (searched start stop content) (report base args content).report

theorem settles (e : Engine) (hSound : args.IsSound) (base : List Rule) (content : Text) :
    Settles e base args content where
  made := Analysis.eq_ok_or_stopped (yields_guardedReport hSound.keep base content)
  lost := by
    rintro rules hRules (⟨rule, hRule, hSome⟩ | ⟨hAsked, hSome⟩)
    · obtain ⟨failure, hFailure⟩ := Option.isSome_iff_exists.mp hSome
      exact guardedReport_of_search hSound.keep hRules hRule hFailure
    · obtain ⟨failure, hFailure⟩ := Option.isSome_iff_exists.mp hSome
      exact exists_guardedReport_eq_error hSound.keep hRules
        (exists_guardedAnalyse_eq_error hSound.keep hRules hAsked hFailure)
  refused := by
    rintro ⟨raw, hRaw, hNot⟩
    rcases RawRule.compose_cases args.patterns with ⟨rules, hCompiled, -⟩ | ⟨e, -, hError⟩
    · exact absurd (hCompiled.compiles hRaw) hNot
    · rw [report_of_refused (hError base)]
      exact ⟨rfl, rfl⟩
  ran := by
    intro hAll
    obtain ⟨rules, hCompiled, hCompose⟩ := RawRule.compose_eq_ok hAll
    obtain ⟨start, stop, hNames, hScope⟩ := exists_names hSound content
    refine ⟨rules, start, stop, hCompiled, hNames, ?_⟩
    rw [← hScope]
    exact complete_of_compose (hCompose base) content

end Dmesg
end LogTriage
