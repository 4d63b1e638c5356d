import LogTriage.Dmesg.Report
import LogTriage.Proofs.Analysis.Guarded
import LogTriage.Proofs.Pattern.LineScan

/-! # Reports by an engine

A report is stopped by the engine alone: while the range is looked for, by a search of one of its analyses,
or by the call that adds the errors nobody knows to the other events.
-/

namespace LogTriage

set_option autoImplicit false

open Analysis (Stop)

variable {e : Engine}

theorem Coverage.yields_searchUncovered {cause : Failure → Prop} {content : Text} {rules : List Rule}
    (hCause : ∀ rule ∈ rules, ∀ failure,
      e.GivesUp (rule.pattern.copy true) content failure → cause failure) :
    Yields cause (uncovered content rules) (searchUncovered e content rules) := by
  have hRule : ∀ rule ∈ rules, Yields cause
      ((rule.pattern.scan content).map (span (lineStarts 0 content.lines)))
      (e.scan rule.pattern content fun m => return span (lineStarts 0 content.lines) m) :=
    fun rule hRule => Engine.yields_scan (hCause rule hRule) fun _ => .pure
  exact (Yields.mapM hRule).bind .pure

namespace Dmesg

variable {base rules : List Rule} {args : Args} {content : Text}

/-- The events that arguments make of a text, and what is logged. -/
def Args.pass (a : Args) (content : Text) (rules : List Rule) : Analysis.Result :=
  Analysis.within a.limits a.group Timestamp.usualPattern content Report.source rules

/-- The events of a text that no rule covers. -/
def Args.unknown (a : Args) (content : Text) (rules : List Rule) : Analysis.Result :=
  a.pass (Coverage.uncovered content rules) [Rule.unknownError]

/-- The engine gives up something on the way to a report. -/
inductive GivesUp (e : Engine) (base : List Rule) (args : Args) (content : Text)
    (failure : Failure) : Prop where
  | range {line : Text} (hBound : args.rangeStart.isSome ∨ args.rangeEnd.isSome)
      (hLine : line ∈ content.lines) (h : e.GivesUp (Timestamp.usualPattern.copy false) line failure)
  | known {rules : List Rule} (hRules : RawRule.compose args.patterns base = .ok rules)
      (h : Analysis.GivesUp e Timestamp.usualPattern (scope args content).1 rules failure)
  | unknown {rules : List Rule} (hRules : RawRule.compose args.patterns base = .ok rules)
      (hAsked : args.reportUnknown = true) (h : Analysis.GivesUp e Timestamp.usualPattern
        (Coverage.uncovered (scope args content).1 rules) [Rule.unknownError] failure)
  | call {rules : List Rule} (hRules : RawRule.compose args.patterns base = .ok rules)
      (hAsked : args.reportUnknown = true)
      (h : e.call (args.unknown (scope args content).1 rules).events.length = some failure)

theorem not_givesUp_tireless {failure : Failure} : ¬GivesUp .tireless base args content failure := by
  rintro (⟨-, -, h⟩ | ⟨-, h⟩ | ⟨-, -, h⟩ | ⟨-, -, h⟩)
  · exact Engine.not_givesUp_tireless h
  · exact Analysis.not_givesUp_tireless h
  · exact Analysis.not_givesUp_tireless h
  · cases h

theorem yields_searchLines {cause : Failure → Prop} {lines : List Text}
    (hFree : ∀ line ∈ lines, Text.newline ∉ line) (hCause : ∀ line ∈ lines, ∀ failure,
      e.GivesUp (Timestamp.usualPattern.copy false) line failure → cause failure)
    (start stop : Option Rat) (inside : Bool) :
    Yields cause (linesInRange start stop inside lines) (searchLines e start stop inside lines) := by
  induction lines generalizing inside with
  | nil => exact .pure
  | cons line rest ih =>
    rw [List.forall_mem_cons] at hFree hCause
    have hRest := ih hFree.2 hCause.2
    -- The engine is given the line of the first position, which is all of it.
    have hSelf : Text.lineAt line 0 = line :=
      Pattern.lineAt_self (c := .start line) (by simpa using hFree.1)
    have hExtract : Yields cause (Timestamp.extract Timestamp.usualPattern line 0)
        (e.extract Timestamp.usualPattern line 0) :=
      Engine.yields_extract fun failure h => hCause.1 failure (hSelf ▸ h)
    rw [linesInRange, searchLines]
    by_cases hBlank : line = []
    · rw [if_pos hBlank, if_pos hBlank]
      exact hRest inside
    rw [if_neg hBlank, if_neg hBlank]
    refine hExtract.bind ?_
    simp only [lineInstant]
    -- Whether the range has begun decides which bound the line is measured against.
    cases inside with
    | true =>
      simp only [Bool.not_true, Bool.false_and, Bool.false_eq_true, if_false, if_true]
      split_ifs
      · exact .pure
      · exact (hRest true).bind .pure
    | false =>
      simp only [Bool.not_false, Bool.true_and, Bool.false_eq_true, if_false]
      split_ifs
      · exact (hRest true).bind .pure
      · exact .pure
      · exact hRest false

theorem yields_searchRange {cause : Failure → Prop} (hCause : ∀ line ∈ content.lines, ∀ failure,
      e.GivesUp (Timestamp.usualPattern.copy false) line failure → cause failure)
    (start stop : Option Rat) :
    Yields cause (filterRange start stop content) (searchRange e start stop content) := by
  have hFree : ∀ line ∈ content.lines, Text.newline ∉ line :=
    fun line hLine => Text.newline_not_mem_of_mem_lines hLine
  rw [filterRange, searchRange]
  exact (yields_searchLines hFree hCause start stop start.isNone).bind .pure

theorem yields_searchScope (e : Engine) (base : List Rule) (args : Args) (content : Text) :
    Yields (GivesUp e base args content) (scope args content) (searchScope e args content) := by
  rw [scope, searchScope]
  split_ifs with hGiven
  · have hBound : args.rangeStart.isSome ∨ args.rangeEnd.isSome := by
      rw [Bool.or_eq_true] at hGiven
      exact hGiven.imp Option.isSome_of_isSome_bind Option.isSome_of_isSome_bind
    exact (yields_searchRange (fun line hLine failure h => .range hBound hLine h) _ _).bind .pure
  · exact .pure

theorem run_settings (hKeep : 1 ≤ args.keep) (content : Text) (rules : List Rule) :
    Analysis.run content Report.source rules args.settings = .ok (args.pass content rules) := by
  have hInterval : (0 : Rat) ≤ args.interval := Nat.cast_nonneg _
  rw [Analysis.run]
  simp only [Args.settings, Analysis.check_finite hKeep hInterval]
  rfl

section

variable (hKeep : 1 ≤ args.keep) (hRules : RawRule.compose args.patterns base = .ok rules)

include hKeep hRules

theorem yields_known : Yields (Stop.OfEngine (GivesUp e base args content))
    (args.pass (scope args content).1 rules)
    (Analysis.guarded e (scope args content).1 Report.source rules args.settings) :=
  (Analysis.yields_guarded (run_settings hKeep _ rules)).mono
    (Stop.OfEngine.mono fun _ h => .known hRules h)

omit hKeep in
theorem yields_rest : Yields (Stop.OfEngine (GivesUp e base args content))
    (Coverage.uncovered (scope args content).1 rules)
    ((Coverage.searchUncovered e (scope args content).1 rules).mapError Stop.engine) :=
  Analysis.yields_stop (Coverage.yields_searchUncovered fun _ hRule _ h => .known hRules (.rule hRule h))

theorem yields_unknown (hAsked : args.reportUnknown = true) :
    Yields (Stop.OfEngine (GivesUp e base args content)) (args.unknown (scope args content).1 rules)
      (Analysis.guarded e (Coverage.uncovered (scope args content).1 rules) Report.source
        [Rule.unknownError] args.settings) :=
  (Analysis.yields_guarded (run_settings hKeep _ _)).mono
    (Stop.OfEngine.mono fun _ h => .unknown hRules hAsked h)

theorem yields_guardedAnalyse : Yields (Stop.OfEngine (GivesUp e base args content))
    (analyse args rules (scope args content).1)
    (guardedAnalyse e args rules (scope args content).1) := by
  rw [analyse, guardedAnalyse]
  refine (yields_known hKeep hRules).bind ?_
  cases hAsked : args.reportUnknown with
  | false => exact .pure
  | true =>
    refine (yields_rest hRules).bind ((yields_unknown hKeep hRules hAsked).bind ?_)
    have hAdded : Yields (GivesUp e base args content) (args.unknown (scope args content).1 rules).events
        (e.pass (args.unknown (scope args content).1 rules).events) :=
      Engine.yields_unlessFailed fun _ h => .call hRules hAsked h
    exact (Analysis.yields_stop hAdded).bind .pure

/-- Events that cannot be added are not shown without the others either. -/
theorem exists_guardedAnalyse_eq_error (hAsked : args.reportUnknown = true) {failure : Failure}
    (hFailure : e.call (args.unknown (scope args content).1 rules).events.length = some failure) :
    ∃ stop, guardedAnalyse e args rules (scope args content).1 = .error stop := by
  rw [guardedAnalyse]
  refine (yields_known (e := e) hKeep hRules).exists_bind_eq_error ?_
  rw [hAsked]
  refine (yields_rest (e := e) hRules).exists_bind_eq_error ?_
  refine (yields_unknown (e := e) hKeep hRules hAsked).exists_bind_eq_error ⟨.engine failure, ?_⟩
  rw [Engine.pass, hFailure]
  rfl

end

/-- A report is made, unless the engine gives up on the way. -/
theorem yields_guardedReport (hKeep : 1 ≤ args.keep) (base : List Rule) (content : Text) :
    Yields (Stop.OfEngine (GivesUp e base args content)) (report base args content)
      (guardedReport e base args content) := by
  rw [report, guardedReport]
  refine (Analysis.yields_stop (yields_searchScope e base args content)).bind ?_
  cases hRules : RawRule.compose args.patterns base with
  | error refused => exact .pure
  | ok rules => exact (yields_guardedAnalyse hKeep hRules).bind .pure

/-- An analysis that is stopped leaves no report. -/
theorem exists_guardedReport_eq_error (hKeep : 1 ≤ args.keep)
    (hRules : RawRule.compose args.patterns base = .ok rules)
    (hStop : ∃ stop, guardedAnalyse e args rules (scope args content).1 = .error stop) :
    ∃ failure, guardedReport e base args content = .error (.engine failure) := by
  refine Analysis.exists_eq_stopped (yields_guardedReport hKeep base content) ?_
  have hScope := Analysis.yields_stop (yields_searchScope e base args content)
  rw [guardedReport]
  refine hScope.exists_bind_eq_error ?_
  obtain ⟨stop, hStop⟩ := hStop
  refine ⟨stop, ?_⟩
  simp only [hRules, hStop]
  rfl

/-- If the search for some rule is given up at once, there is no report. -/
theorem guardedReport_of_search (hKeep : 1 ≤ args.keep)
    (hRules : RawRule.compose args.patterns base = .ok rules) {rule : Rule} (hRule : rule ∈ rules)
    {failure : Failure}
    (hFailure : e.search (rule.pattern.copy true) (scope args content).1 0 = some failure) :
    ∃ failure, guardedReport e base args content = .error (.engine failure) := by
  obtain ⟨failure, hKnown⟩ := Analysis.exists_guarded_eq_error
    (run_settings hKeep (scope args content).1 rules) hRule hFailure
  refine exists_guardedReport_eq_error hKeep hRules ⟨.engine failure, ?_⟩
  rw [guardedAnalyse, hKnown]
  rfl

end Dmesg
end LogTriage
