import LogTriage.Proofs.Dmesg.Complete
import LogTriage.Proofs.Json.Equality
import LogTriage.Proofs.Service.Stopped

/-! # Requests that are accepted

A body of the wrong shape and a rule that does not compile are refused. Every other body is answered with
all events of its analysis, unless the engine gives up: that a rule compiles does not tell whether it can be
run, and no route is prepared for one that cannot.
-/

namespace LogTriage

set_option autoImplicit false

open Schema Schema.Checked

namespace Service

/-- What comes of a body with rules to run. -/
structure Answers (e : Engine) (body : Option Json) (answer : Response) : Prop where
  mismatched : (∀ b, AnalyzeBody.check [] body ≠ .valid b) → answer.status = 400
  refused : ∀ b, AnalyzeBody.check [] body = .valid b → (∃ raw ∈ b.rules, ¬raw.Compiles) →
    answer.status = 400
  answered : ∀ b, AnalyzeBody.check [] body = .valid b → (∀ raw ∈ b.rules, raw.Compiles) →
    ∃ rules result, RawRule.Compiled b.rules rules ∧
      Analysis.run b.content b.source rules b.settings = .ok result ∧
      (answer = ⟨200, .record [("source", .text b.source),
        ("status", .ofString (Status.ofEvents result.events).name),
        ("count", .ofNat result.events.length),
        ("events", .list (result.events.map (·.toJson)))]⟩ ∨ b.Stopped e rules answer)
  lost : ∀ b rules, AnalyzeBody.check [] body = .valid b → RawRule.compose b.rules [] = .ok rules →
    (∃ rule ∈ rules, (e.search (rule.pattern.copy true) b.content 0).isSome) → answer.status = 500

theorem answers_analyze (e : Engine) (body : Option Json) : Answers e body (analyze e body) where
  mismatched := by
    intro hNot
    rw [analyze]
    cases hBody : AnalyzeBody.check [] body with
    | invalid ms => rfl
    | valid b => exact absurd hBody (hNot b)
  refused := by
    rintro b hBody ⟨raw, hRaw, hNot⟩
    rw [analyze, hBody]
    rcases RawRule.compose_cases b.rules with ⟨rules, hCompiled, -⟩ | ⟨err, -, hError⟩
    · exact absurd (hCompiled.compiles hRaw) hNot
    · simp only [hError]
      rfl
  answered := by
    intro b hBody hAll
    obtain ⟨rules, hCompiled, hCompose⟩ := RawRule.compose_eq_ok hAll
    have hRun := AnalyzeBody.run_eq (AnalyzeBody.keep_of_check hBody) rules
    refine ⟨rules, _, hCompiled, hRun, analyze_eq_or_stopped hBody ?_⟩
    rw [hCompose, List.append_nil]
  lost := by
    rintro b rules hBody hRules ⟨rule, hRule, hSome⟩
    obtain ⟨failure, hFailure⟩ := Option.isSome_iff_exists.mp hSome
    obtain ⟨failure, hStop⟩ := exists_analyze_eq_stopped hBody hRules hRule hFailure
    rw [hStop]
    rfl

/-- Whatever is accepted is carried through or given up by the engine. Arguments that pass their check and
bodies that pass theirs are not stopped for anything else, and what comes of them leaves nothing out. -/
theorem accepted_settles (e : Engine) :
    (∀ path value args, Dmesg.Args.check path value = .valid args → ∀ base content,
      Dmesg.Settles e base args content) ∧
    (∀ defaults r body, readBody r = .ok body → route? r = some .analyze →
      Answers e body (respond defaults r e)) ∧
    ∀ defaults r body, readBody r = .ok body → route? r = some .dmesg →
      ∀ b args, DmesgBody.check [] body = .valid b → Dmesg.Args.overlay defaults b.args = .valid args →
        Reports e args b.content (respond defaults r e) := by
  refine ⟨?_, ?_, ?_⟩
  · intro path value args hAccepted base content
    exact Dmesg.settles e (Dmesg.Args.check_roundTrips.sound hAccepted) base content
  · intro defaults r body hBody hRoute
    rw [respond, hBody]
    simp only [hRoute]
    exact answers_analyze e body
  · intro defaults r body hBody hRoute b args hValid hArgs
    rw [respond, hBody]
    simp only [hRoute]
    exact dmesg_reports hValid hArgs

def diskRule : RawRule :=
  ⟨Text.ofString "disk", Text.ofString "Disk", none, some (Text.ofString "storage"), none⟩

/-- Arguments with a start, a rule of their own and an excluded category. -/
def afternoon : Dmesg.Args where
  rangeStart := some (Text.ofString "2024-10-07T12:00:00,000000-04:00")
  excluded := [.storage]
  patterns := [diskRule]

def offline : Text :=
  Text.ofString "kern  :err   : 2024-10-07T11:00:00,000000-04:00 too early\nkern  :err   : 2024-10-07T13:00:00,000000-04:00 disk offline\nkern  :err   : 2024-10-07T13:00:01,000000-04:00 fan stopped"

def diskFields : Json.Fields :=
  [(Text.ofString "content", .text (Text.ofString "disk offline")),
    (Text.ofString "source", .text (Text.ofString "log")),
    (Text.ofString "rules", .list [diskRule.toJson])]

def diskRequest : Request where
  method := Text.ofString "POST"
  url := Text.ofString "/api/v1/analyze"
  contentType := some (Text.ofString "application/json")
  body := some (Text.ofString "\x7b\"content\":\"disk offline\",\"source\":\"log\",\"rules\":[\x7b\"regex\":\"disk\",\"message\":\"Disk\",\"category\":\"storage\"\x7d]\x7d")

theorem brings_disk : diskRequest.Brings .analyze diskFields where
  body := readBody_of_parse (by decide +kernel) rfl (by decide +kernel) rfl
    (by decide +kernel) (by decide +kernel)
  route := by decide +kernel

/-- The first line is before the start and the second one excluded, which leaves the third. -/
theorem accepted_settles_afternoon :
    Dmesg.guardedReport .usual [] afternoon offline = .ok (Dmesg.report [] afternoon offline) ∧
    (∃ rules start stop, RawRule.Compiled afternoon.patterns rules ∧
      Dmesg.Names afternoon start stop ∧ Dmesg.Complete afternoon rules
        (Dmesg.searched start stop offline)
        (Dmesg.report [] afternoon offline).report) ∧
    (Dmesg.report [] afternoon offline).report.events.length = 1 ∧
    (respond .default diskRequest).status = 200 := by
  obtain ⟨hReports, hAnswers, -⟩ := accepted_settles .usual
  have hShaped : diskRule.IsShaped :=
    rawRule_roundTrips.sound (rfl : rawRule [] (some diskRule.toJson) = .valid diskRule)
  have hCompiles : ∀ raw ∈ [diskRule], raw.Compiles := by
    rw [List.forall_mem_singleton, RawRule.compiles_iff]
    decide +kernel
  have hAccepted : Dmesg.Args.check [] (some afternoon.toJson) = .valid afternoon := by
    refine Dmesg.Args.check_roundTrips.accepts ⟨?_, by simp [afternoon], ?_, by decide⟩ []
    · rintro t ⟨⟩
      decide +kernel
    · exact List.forall_mem_singleton.mpr hShaped
  have hReport := hReports _ _ _ hAccepted [] offline
  have hShown : ((Dmesg.guardedReport .usual [] afternoon offline).toOption.map
      fun outcome => outcome.report.events.length) = some 1 := by decide +kernel
  have hMade : Dmesg.guardedReport .usual [] afternoon offline =
      .ok (Dmesg.report [] afternoon offline) := by
    refine hReport.made.resolve_right ?_
    rintro ⟨failure, -, hStop⟩
    rw [hStop] at hShown
    cases hShown
  refine ⟨hMade, by simpa using hReport.ran hCompiles, ?_, ?_⟩
  · rw [hMade] at hShown
    exact Option.some.inj hShown
  · have hBody : AnalyzeBody.check [] (some (.object diskFields)) =
        .valid ⟨Text.ofString "disk offline", Text.ofString "log", [diskRule], true, 3, 60⟩ :=
      AnalyzeBody.check_eq_valid_iff.mpr ⟨⟨rfl, rfl, rfl, rfl, rfl⟩, rfl⟩
    have hAnswer := hAnswers .default _ _ brings_disk.body brings_disk.route
    have hServed : (respond .default diskRequest).status ≠ 500 := by decide +kernel
    obtain ⟨rules, result, -, -, hDone | ⟨failure, -, hStop⟩⟩ := hAnswer.answered _ hBody hCompiles
    · rw [hDone]
    · rw [hStop] at hServed
      exact absurd rfl hServed

/-- A rule that compiles and that the usual engine has no room for. -/
def overrunRule : RawRule :=
  ⟨Text.ofString "(?:a?)\x7b10000000\x7d", Text.ofString "Overrun", none, none, none⟩

def overrunArgs : Dmesg.Args where
  patterns := [overrunRule]

def overrunRequest : Request where
  method := Text.ofString "POST"
  url := Text.ofString "/api/v1/analyze"
  contentType := some (Text.ofString "application/json")
  body := some (Text.ofString "\x7b\"content\":\"\",\"source\":\"log\",\"rules\":[\x7b\"regex\":\"(?:a?)\x7b10000000\x7d\",\"message\":\"Overrun\"\x7d]\x7d")

def overrunFields : Json.Fields :=
  [(Text.ofString "content", .text []), (Text.ofString "source", .text (Text.ofString "log")),
    (Text.ofString "rules", .list [overrunRule.toJson])]

theorem brings_overrun : overrunRequest.Brings .analyze overrunFields where
  body := readBody_of_parse (by decide +kernel) rfl (by decide +kernel) rfl
    (by decide +kernel) (by decide +kernel)
  route := by decide +kernel

/-- The rule is accepted as an argument and in a request, and neither comes to a result. -/
theorem accepted_overrun :
    overrunRule.Compiles ∧
    Dmesg.Args.check [] (some overrunArgs.toJson) = .valid overrunArgs ∧
    (Dmesg.guardedReport .usual [] overrunArgs []).isOk = false ∧
    overrunRequest.Brings .analyze overrunFields ∧
    AnalyzeBody.check [] (some (.object overrunFields)) =
      .valid ⟨[], Text.ofString "log", [overrunRule], true, 3, 60⟩ ∧
    (respond .default overrunRequest).status = 500 := by
  refine ⟨RawRule.compiles_iff.mpr (by decide +kernel), rfl, by decide +kernel, brings_overrun, ?_, ?_⟩
  · exact AnalyzeBody.check_eq_valid_iff.mpr ⟨⟨rfl, rfl, rfl, rfl, rfl⟩, rfl⟩
  · decide +kernel

end Service
end LogTriage
