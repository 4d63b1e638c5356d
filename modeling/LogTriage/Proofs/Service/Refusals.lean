import LogTriage.Proofs.Config
import LogTriage.Proofs.Dmesg.Complete
import LogTriage.Proofs.Json.Equality
import LogTriage.Proofs.Service.Stopped

/-! # Rules refused alike

Raw rules come in by three ways: with a request, from the configuration file, and in the arguments of a
report. Each of them composes the rules on its own account. They agree on what is accepted, and where a
rule does not compile they tell of the same issues, which are all those of the first such rule.
-/

namespace LogTriage

set_option autoImplicit false

open Schema Schema.Checked

/-- Values that have the shape of raw rules, and the rules that they are. -/
def Schema.AreRules (items : List Json) (raws : List RawRule) : Prop :=
  items.Forall₂ (fun j raw => rawRule [] (some j) = .valid raw) raws

namespace Service

theorem AnalyzeBody.Surrounds.check {fs : Json.Fields} {b : AnalyzeBody} (h : Surrounds fs b)
    {items : List Json} {raws : List RawRule}
    (hGiven : fs.get? (Text.ofString "rules") = some (.list items)) (hSome : items ≠ [])
    (hShaped : AreRules items raws) :
    AnalyzeBody.check [] (some (.object fs)) = .valid { b with rules := raws } := by
  refine check_eq_valid_iff.mpr ⟨⟨h.content, h.source, h.group, h.keep, h.interval⟩, ?_⟩
  rw [field, hGiven]
  cases items with
  | nil => exact absurd rfl hSome
  | cons item rest => exact rawRule_placeless.listOf_eq_valid_iff.mpr ⟨_, rfl, hShaped⟩

end Service

namespace Dmesg.Args

/-- The fields beside the rules, which make up the rest of the arguments. -/
structure Surrounds (fs : Json.Fields) (a : Args) : Prop where
  rangeStart : field "analysis_range_start" (optional timestamp) [] fs = .valid a.rangeStart
  rangeEnd : field "analysis_range_end" (optional timestamp) [] fs = .valid a.rangeEnd
  reportUnknown : field "check_unknown_dmesg_errors" (withDefault true boolean) [] fs =
    .valid a.reportUnknown
  excluded : field "exclude_category" (withDefault [] (listOf category)) [] fs = .valid a.excluded
  group : field "group" (withDefault true boolean) [] fs = .valid a.group
  keep : field "num_timestamps" (withDefault 3 (natural 1 none)) [] fs = .valid a.keep
  interval : field "interval_to_collapse_event" (withDefault 60 (natural 0 none)) [] fs =
    .valid a.interval

theorem Surrounds.check {fs : Json.Fields} {a : Args} (h : Surrounds fs a)
    {items : List Json} {raws : List RawRule}
    (hGiven : fs.get? (Text.ofString "custom_error_patterns") = some (.list items))
    (hShaped : AreRules items raws) :
    Args.check [] (some (.object fs)) = .valid { a with patterns := raws } := by
  refine check_eq_valid_iff.mpr ⟨fs, rfl, ofFields_eq_valid_iff.mpr ?_⟩
  refine ⟨h.rangeStart, h.rangeEnd, h.reportUnknown, h.excluded, ?_, h.group, h.keep, h.interval⟩
  rw [field, hGiven]
  exact rawRule_placeless.listOf_eq_valid_iff.mpr ⟨items, rfl, hShaped⟩

end Dmesg.Args

/-- Rules are refused for the same issues on every way in, whatever comes with them. -/
structure RefusedAlike (items : List Json) (raws : List RawRule) (e : RuleError) : Prop where
  request : ∀ engine defaults r fs b, r.Brings .analyze fs → Service.AnalyzeBody.Surrounds fs b →
    fs.get? (Text.ofString "rules") = some (.list items) →
    Service.respond defaults r engine = ⟨400, .record
      [("error", .text (Text.ofString "Invalid custom rule at index " ++ Text.ofNat e.index)),
        ("issues", .list (e.issues.map (·.toJson)))]⟩
  file : ∀ bytes fs args, Config.Holds bytes fs → Dmesg.Args.Surrounds fs args →
    fs.get? (Text.ofString "custom_error_patterns") = some (.list items) →
    ∃ err, Config.loadFile (some bytes) = .error err ∧
      ∀ path reason, err.refusal path reason = ⟨Text.ofString "Invalid analyzer config " ++ path,
        e.issues.map fun i =>
          ⟨Text.ofString "dmesg.custom_error_patterns." ++ i.path, i.message⟩⟩
  report : ∀ fs args, Dmesg.Args.Surrounds fs args →
    fs.get? (Text.ofString "custom_error_patterns") = some (.list items) →
    Dmesg.Args.check [] (some (.object fs)) = .valid { args with patterns := raws } ∧
    ∀ base content,
      (Dmesg.report base { args with patterns := raws } content).report = ⟨.executionFailure,
        Text.ofString "Invalid custom error pattern: " ++ (Text.ofString "; ").intercalate
          (e.issues.map fun i => i.path ++ Text.ofString ": " ++ i.message), []⟩ ∧
      (Dmesg.report base { args with patterns := raws } content).log.filter (·.level = "error") =
        [.badCustomPattern e.issues]

/-- Rules are refused on no way in, and go before the base rules. A request is only not answered where the
engine gives them up. -/
structure AcceptedAlike (items : List Json) (raws : List RawRule) (rules : List Rule) : Prop where
  request : ∀ engine defaults r fs b, r.Brings .analyze fs → Service.AnalyzeBody.Surrounds fs b →
    fs.get? (Text.ofString "rules") = some (.list items) →
    Service.respond defaults r engine = Service.analyzeAnswer b.source
      (Analysis.within ⟨b.keep, (b.interval : Rat)⟩ b.group Timestamp.usualPattern b.content
        b.source rules).events ∨
      b.Stopped engine rules (Service.respond defaults r engine)
  file : ∀ bytes fs args, Config.Holds bytes fs → Dmesg.Args.Surrounds fs args →
    fs.get? (Text.ofString "custom_error_patterns") = some (.list items) →
    Config.loadFile (some bytes) = .ok { args with patterns := raws }
  report : ∀ fs args, Dmesg.Args.Surrounds fs args →
    fs.get? (Text.ofString "custom_error_patterns") = some (.list items) →
    Dmesg.Args.check [] (some (.object fs)) = .valid { args with patterns := raws } ∧
    ∀ base content,
      (Dmesg.report base { args with patterns := raws } content).report.status ≠
        .executionFailure ∧
      (Dmesg.report base { args with patterns := raws } content).log.filter (·.level = "error") = []
  composed : ∀ base, RawRule.compose raws base = .ok (rules ++ base)

section

variable {items : List Json} {raws : List RawRule}

theorem refusedAlike (hSome : items ≠ []) (hShaped : AreRules items raws) {e : RuleError}
    (hError : ∀ base, RawRule.compose raws base = .error e) : RefusedAlike items raws e where
  request := by
    intro engine defaults r fs b hBrings hRest hGiven
    rw [Service.respond_analyze hBrings, Service.analyze, hRest.check hGiven hSome hShaped]
    simp only [hError]
    rfl
  file := by
    intro bytes fs args hHolds hRest hGiven
    refine ⟨.invalidPatterns e, ?_, ?_⟩
    · rw [Config.loadFile_of_holds hHolds (hRest.check hGiven hShaped), Config.checkPatterns, hError]
    · intro path reason
      have hPath : Text.ofString "dmesg.custom_error_patterns." =
          Config.Error.patternsPath ++ Text.ofString "." := by decide +kernel
      rw [Config.Error.refusal, hPath]
      rfl
  report := by
    intro fs args hRest hGiven
    refine ⟨hRest.check hGiven hShaped, ?_⟩
    intro base content
    rw [Dmesg.report_of_refused (hError base)]
    refine ⟨rfl, ?_⟩
    have hQuiet := Dmesg.quiet_scope { args with patterns := raws } content
    rw [List.filter_append, List.filter_eq_nil_iff.mpr]
    · rfl
    · intro entry hEntry
      simpa using hQuiet entry hEntry

theorem acceptedAlike (hSome : items ≠ []) (hShaped : AreRules items raws) {rules : List Rule}
    (hComposed : ∀ base, RawRule.compose raws base = .ok (rules ++ base)) :
    AcceptedAlike items raws rules where
  request := by
    intro engine defaults r fs b hBrings hRest hGiven
    have hRules : RawRule.compose raws [] = .ok rules := by rw [hComposed, List.append_nil]
    have hBody := hRest.check hGiven hSome hShaped
    have hAnswer := Service.analyze_eq_or_stopped (e := engine) hBody hRules
    rw [Service.respond_analyze hBrings]
    exact hAnswer
  file := by
    intro bytes fs args hHolds hRest hGiven
    rw [Config.loadFile_of_holds hHolds (hRest.check hGiven hShaped), Config.checkPatterns,
      hComposed]
  report := by
    intro fs args hRest hGiven
    refine ⟨hRest.check hGiven hShaped, ?_⟩
    intro base content
    constructor
    · exact Dmesg.status_ne_executionFailure (hComposed base) content
    · apply List.filter_eq_nil_iff.mpr
      intro entry hEntry
      simpa using Dmesg.quiet_report (hComposed base) content entry hEntry
  composed := hComposed

/-- Rules of the right shape are refused on every way in or on none. If they are refused, then for all
that is wrong with the first of them that does not compile. -/
theorem refused_or_accepted (hSome : items ≠ []) (hShaped : AreRules items raws) :
    (∃ e : RuleError, e.IsFirst raws ∧ RefusedAlike items raws e) ∨
      ∃ rules, RawRule.Compiled raws rules ∧ AcceptedAlike items raws rules := by
  rcases RawRule.compose_cases raws with ⟨rules, hCompiled, hComposed⟩ | ⟨e, hFirst, hError⟩
  · exact .inr ⟨rules, hCompiled, acceptedAlike hSome hShaped hComposed⟩
  · exact .inl ⟨e, hFirst, refusedAlike hSome hShaped hError⟩

/-- The second rule has an open group and a severity that no one knows. -/
def openGroup : List RawRule :=
  [⟨Text.ofString "oops", Text.ofString "Oops", none, none, none⟩,
    ⟨Text.ofString "(", Text.ofString "Group", none, none, some (.name (Text.ofString "loud"))⟩]

def openGroupFields : Json.Fields :=
  [(Text.ofString "content", .text []), (Text.ofString "source", .text (Text.ofString "log")),
    (Text.ofString "rules", .list (openGroup.map (·.toJson)))]

def openGroupRequest : Service.Request where
  method := Text.ofString "POST"
  url := Text.ofString "/api/v1/analyze"
  contentType := some (Text.ofString "application/json")
  body := some (Text.ofString "\x7b\"content\":\"\",\"source\":\"log\",\"rules\":[\x7b\"regex\":\"oops\",\"message\":\"Oops\"\x7d,\x7b\"regex\":\"(\",\"message\":\"Group\",\"severity\":\"loud\"\x7d]\x7d")

theorem brings_openGroup : openGroupRequest.Brings .analyze openGroupFields where
  body := Service.readBody_of_parse (by decide +kernel) rfl (by decide +kernel) rfl
    (by decide +kernel) (by decide +kernel)
  route := by decide +kernel

theorem isFirst_openGroup : (RuleError.mk 1 openGroup[1].faults).IsFirst openGroup := by
  have hFirst : openGroup[0].faults = [] := by decide +kernel
  have hSecond : openGroup[1].faults ≠ [] := by decide +kernel
  refine ⟨⟨openGroup[1], rfl, mt RawRule.compiles_iff.mp hSecond, rfl⟩, ?_⟩
  intro i hi raw hRaw
  obtain rfl : i = 0 := Nat.lt_one_iff.mp hi
  obtain rfl : openGroup[0] = raw := Option.some.inj hRaw
  exact RawRule.compiles_iff.mpr hFirst

/-- Both faults of the second rule are told. -/
theorem refused_or_accepted_openGroup :
    ∃ e : RuleError, e.issues.map (·.path) = [Text.ofString "1.regex", Text.ofString "1.severity"] ∧
      RefusedAlike (openGroup.map (·.toJson)) openGroup e ∧
      (Service.respond .default openGroupRequest).status = 400 ∧
      ∀ base content, (Dmesg.report base { Dmesg.Args.default with patterns := openGroup }
        content).report.status = .executionFailure := by
  have hShaped : AreRules (openGroup.map (·.toJson)) openGroup :=
    List.Forall₂.cons rfl (.cons rfl .nil)
  rcases refused_or_accepted (by decide +kernel) hShaped with ⟨e, hFirst, hRefused⟩ | ⟨_, hAll, -⟩
  · obtain rfl := hFirst.unique isFirst_openGroup
    refine ⟨_, by decide +kernel, hRefused, ?_, ?_⟩
    · rw [hRefused.request _ _ _ _ ⟨[], Text.ofString "log", [], true, 3, 60⟩ brings_openGroup
        ⟨rfl, rfl, rfl, rfl, rfl⟩ rfl]
    · intro base content
      have hReport := hRefused.report [(Text.ofString "custom_error_patterns", .list _)]
        .default ⟨rfl, rfl, rfl, rfl, rfl, rfl, rfl⟩ rfl
      rw [(hReport.2 base content).1]
  · obtain ⟨raw, hRaw, hNot, -⟩ := isFirst_openGroup.refused
    exact absurd (hAll.compiles (List.mem_of_getElem? hRaw)) hNot

end

end LogTriage
