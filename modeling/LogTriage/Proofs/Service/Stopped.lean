import LogTriage.Proofs.Dmesg.Guarded
import LogTriage.Proofs.Service.Bodies

/-! # Analyses that are stopped on behalf of a request

A body that passes its checks leaves nothing for an analysis to be stopped by but the engine. Where the
engine gives up, the route has no answer of its own.
-/

namespace LogTriage.Service

set_option autoImplicit false

open Schema Schema.Checked

variable {e : Engine} {body : Option Json} {b : AnalyzeBody} {rules : List Rule}

theorem AnalyzeBody.run_eq (hKeep : 1 ≤ b.keep) (rules : List Rule) :
    Analysis.run b.content b.source rules b.settings =
      .ok (Analysis.within ⟨b.keep, (b.interval : Rat)⟩ b.group Timestamp.usualPattern b.content
        b.source rules) := by
  have hInterval : (0 : Rat) ≤ b.interval := Nat.cast_nonneg _
  rw [Analysis.run]
  simp only [settings, Analysis.check_finite hKeep hInterval]
  rfl

theorem AnalyzeBody.keep_of_check (h : AnalyzeBody.check [] body = .valid b) : 1 ≤ b.keep := by
  obtain ⟨fs, hFields, -⟩ := bind_eq_valid_iff.mp h
  obtain rfl := fields_eq_valid_iff.mp hFields
  obtain ⟨hRest, -⟩ := AnalyzeBody.check_eq_valid_iff.mp h
  exact (((natural_roundTrips 1 none).withDefault ⟨by decide, by simp⟩).sound hRest.keep).1

/-- The engine gives up a search in the content of a body, and the answer is the failure. -/
def AnalyzeBody.Stopped (e : Engine) (b : AnalyzeBody) (rules : List Rule) (answer : Response) : Prop :=
  ∃ failure, Analysis.GivesUp e Timestamp.usualPattern b.content rules failure ∧
    answer = stopped (.engine failure)

theorem analyze_eq_or_stopped (hBody : AnalyzeBody.check [] body = .valid b)
    (hRules : RawRule.compose b.rules [] = .ok rules) :
    analyze e body = analyzeAnswer b.source (Analysis.within ⟨b.keep, (b.interval : Rat)⟩ b.group
      Timestamp.usualPattern b.content b.source rules).events ∨ b.Stopped e rules (analyze e body) := by
  rw [analyze, hBody]
  simp only [hRules]
  have hRun := AnalyzeBody.run_eq (AnalyzeBody.keep_of_check hBody) rules
  rcases Analysis.eq_ok_or_stopped (Analysis.yields_guarded (e := e) hRun) with
    hDone | ⟨failure, hCause, hStop⟩
  · rw [hDone]
    exact .inl rfl
  · rw [hStop]
    exact .inr ⟨failure, hCause, rfl⟩

/-- A rule whose search is given up at once leaves the route without an answer. -/
theorem exists_analyze_eq_stopped (hBody : AnalyzeBody.check [] body = .valid b)
    (hRules : RawRule.compose b.rules [] = .ok rules) {rule : Rule} (hRule : rule ∈ rules)
    {failure : Failure} (hFailure : e.search (rule.pattern.copy true) b.content 0 = some failure) :
    ∃ failure, analyze e body = stopped (.engine failure) := by
  have hRun := AnalyzeBody.run_eq (AnalyzeBody.keep_of_check hBody) rules
  obtain ⟨failure, hStop⟩ := Analysis.exists_guarded_eq_error hRun hRule hFailure
  refine ⟨failure, ?_⟩
  rw [analyze, hBody]
  simp only [hRules, hStop]

/-- What comes of a request for a report: the report, or what the engine gave up with on the way to it. It
is the latter if the search for some rule is given up at once. -/
structure Reports (e : Engine) (args : Dmesg.Args) (content : Text) (answer : Response) : Prop where
  made : answer = ⟨200, (Dmesg.report Rule.kernelBase args content).report.toJson⟩ ∨
    ∃ failure, Dmesg.GivesUp e Rule.kernelBase args content failure ∧
      answer = stopped (.engine failure)
  lost : ∀ rules, RawRule.compose args.patterns Rule.kernelBase = .ok rules →
    (∃ rule ∈ rules, (e.search (rule.pattern.copy true) (Dmesg.scope args content).1 0).isSome) →
      answer.status = 500

theorem dmesg_reports {defaults args : Dmesg.Args} {b : DmesgBody}
    (hBody : DmesgBody.check [] body = .valid b) (hArgs : defaults.overlay b.args = .valid args) :
    Reports e args b.content (dmesg e defaults body) := by
  have hKeep := (Dmesg.Args.check_roundTrips.sound hArgs).keep
  rw [dmesg, hBody]
  simp only [hArgs]
  constructor
  · rcases Analysis.eq_ok_or_stopped (Dmesg.yields_guardedReport (e := e) hKeep Rule.kernelBase b.content)
      with hDone | ⟨failure, hCause, hStop⟩
    · rw [hDone]
      exact .inl rfl
    · rw [hStop]
      exact .inr ⟨failure, hCause, rfl⟩
  · rintro rules hRules ⟨rule, hRule, hSome⟩
    obtain ⟨failure, hFailure⟩ := Option.isSome_iff_exists.mp hSome
    obtain ⟨failure, hStop⟩ := Dmesg.guardedReport_of_search hKeep hRules hRule hFailure
    rw [hStop]
    rfl

end LogTriage.Service
