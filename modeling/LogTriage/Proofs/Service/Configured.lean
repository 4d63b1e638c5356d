import LogTriage.Proofs.Config
import LogTriage.Proofs.Dmesg.Complete
import LogTriage.Proofs.Json.Equality
import LogTriage.Proofs.Service.Stopped

/-! # Configured defaults

Defaults are checked once, when they are loaded. A request that names no rules of its own and is in order
for the rest then gets a report with the rules as they are configured, unless the engine gives up. It may do
so for the very rules that were loaded, because loading compiles them and does not run them.
-/

namespace LogTriage.Service

set_option autoImplicit false

open Schema Dmesg

variable {e : Engine} {r : Request} {content : Text} {given : Json.Fields} {d : Args}

theorem Request.Asks.distinct (h : r.Asks content given) : given.Distinct := by
  obtain ⟨fs, hBrings, -, hArgs⟩ := h.brought
  rcases hArgs with hGiven | ⟨-, rfl⟩
  · obtain _ | _ | _ | _ | _ | ⟨-, hFields⟩ := hBrings.wellFormed
    obtain _ | _ | _ | _ | _ | ⟨hDistinct, -⟩ := hFields _ (Json.Fields.mem_of_get? hGiven)
    exact hDistinct
  · exact Json.Fields.distinct_nil

/-- The key that a body drops is not that of a known field. -/
theorem get?_known {entry : String × Check Unit} (h : entry ∈ Args.known) :
    Json.Fields.get? (given.filter fun e => e.1 ≠ DmesgBody.prototypeKey)
      (Text.ofString entry.1) = given.get? (Text.ofString entry.1) := by
  have hNames : ∀ name ∈ Args.known.map (·.1), Text.ofString name ≠ DmesgBody.prototypeKey := by
    decide +kernel
  have hName := hNames entry.1 (List.mem_map_of_mem h)
  exact Json.Fields.get?_filter (fun name => name ≠ DmesgBody.prototypeKey) (decide_eq_true hName)

theorem respond_of_asks (h : r.Asks content given) {args : Args}
    (hArgs : d.settled [] given = .valid args) (hSound : d.IsSound) :
    Reports e args content (respond d r e) := by
  obtain ⟨fs, hBrings, hContent, hGiven⟩ := h.brought
  have hOverlay : d.overlay (given.filter fun e => e.1 ≠ DmesgBody.prototypeKey) = .valid args := by
    rw [Args.overlay_eq_settled hSound (h.distinct.filter _), Args.settled_congr, hArgs]
    intro entry hEntry
    exact get?_known hEntry
  rw [respond_dmesg hBrings]
  have hAnswer := dmesg_reports (e := e) (DmesgBody.check_eq_valid hContent hGiven) hOverlay
  exact hAnswer

/-- What defaults that have been loaded guarantee: they are given again from their written form, their
rules compile, and a request without rules that is in order gets a report that was carried out, unless the
engine gives up. -/
theorem configured_settles {file : Option (List UInt8)} (hLoaded : Config.loadFile file = .ok d) :
    (∀ path value a, Args.check path value = .valid a → ∀ other,
      Args.check other (some a.toJson) = .valid a) ∧
    Args.check [] (some d.toJson) = .valid d ∧
    (∀ raw ∈ d.patterns, raw.Compiles) ∧
    ∀ e r content given, Request.Asks r content given →
      given.get? (Text.ofString "custom_error_patterns") = none →
      (∀ entry ∈ Args.known, Args.Accepted given entry) →
      ∃ args, Args.LaidOver d given args ∧ args.patterns = d.patterns ∧
        Reports e args content (respond d r e) ∧
        (report Rule.kernelBase args content).report.status ≠ .executionFailure := by
  obtain ⟨hSound, hCompiles⟩ := Config.loadFile_sound hLoaded
  refine ⟨?_, Args.check_roundTrips.accepts hSound [], hCompiles, ?_⟩
  · intro path value a hValid other
    exact Args.check_roundTrips.again hValid other
  intro e r content given hAsks hNoRules hAccepted
  obtain ⟨args, hArgs⟩ := Args.exists_settled_iff.mpr hAccepted
  have hLaid : Args.LaidOver d given args := Args.settled_eq_valid_iff.mp hArgs
  have hPatterns : args.patterns = d.patterns := by
    have hTaken := hLaid.patterns
    rw [Args.taken, hNoRules] at hTaken
    exact (Checked.valid.inj hTaken).symm
  refine ⟨args, hLaid, hPatterns, respond_of_asks hAsks hArgs hSound, ?_⟩
  obtain ⟨rules, -, hCompose⟩ := RawRule.compose_eq_ok (hPatterns ▸ hCompiles)
  exact status_ne_executionFailure (hCompose Rule.kernelBase) content

def diskDefaults : Args where
  excluded := [.os]
  patterns := [⟨Text.ofString "disk", Text.ofString "Disk", none, none, none⟩]

def diskSection : Json.Fields :=
  [(Text.ofString "exclude_category", .list [.ofString "OS"]),
    (Text.ofString "custom_error_patterns", .list [.record
      [("regex", .ofString "disk"), ("message", .ofString "Disk")]])]

def diskFile : List UInt8 :=
  "\x7b\"dmesg\":\x7b\"exclude_category\":[\"OS\"],\"custom_error_patterns\":[\x7b\"regex\":\"disk\",\"message\":\"Disk\"\x7d]\x7d\x7d".toList.map
    fun c => c.toNat.toUInt8

theorem loadFile_diskFile : Config.loadFile (some diskFile) = .ok diskDefaults := by
  have hHolds : Config.Holds diskFile diskSection :=
    ⟨[(Text.ofString "dmesg", .object diskSection)], by decide +kernel, rfl⟩
  rw [Config.loadFile_of_holds hHolds (rfl : _ = Checked.valid diskDefaults),
    Config.checkPatterns_eq_ok_iff]
  refine ⟨rfl, List.forall_mem_singleton.mpr (RawRule.compiles_iff.mpr ?_)⟩
  decide +kernel

/-- A request with a known and an unknown argument. -/
def ungroupedRequest : Request where
  method := Text.ofString "POST"
  url := Text.ofString "/api/v1/analyze/dmesg"
  contentType := some (Text.ofString "application/json")
  body := some (Text.ofString "\x7b\"content\":\"disk offline\",\"args\":\x7b\"group\":false,\"colour\":null\x7d\x7d")

def ungrouped : Json.Fields := [(Text.ofString "group", .bool false), (Text.ofString "colour", .null)]

theorem asks_ungrouped : ungroupedRequest.Asks (Text.ofString "disk offline") ungrouped where
  brought := by
    refine ⟨[(Text.ofString "content", .ofString "disk offline"),
      (Text.ofString "args", .object ungrouped)], ⟨?_, by decide +kernel⟩, rfl, .inl rfl⟩
    exact readBody_of_parse (by decide +kernel) rfl (by decide +kernel) rfl
      (by decide +kernel) (by decide +kernel)

theorem configured_settles_diskFile :
    respond diskDefaults ungroupedRequest .tireless =
      ⟨200, (report Rule.kernelBase { diskDefaults with group := false }
        (Text.ofString "disk offline")).report.toJson⟩ := by
  have hSettled : diskDefaults.settled [] ungrouped = .valid { diskDefaults with group := false } :=
    rfl
  obtain ⟨-, -, -, hAnswers⟩ := configured_settles loadFile_diskFile
  obtain ⟨args, hLaid, -, hAnswer, -⟩ := hAnswers .tireless _ _ _ asks_ungrouped rfl
    (Args.exists_settled_iff.mp ⟨_, hSettled⟩)
  obtain rfl := Checked.valid.inj ((Args.settled_eq_valid_iff.mpr hLaid).symm.trans hSettled)
  refine hAnswer.made.resolve_right ?_
  rintro ⟨failure, hGivesUp, -⟩
  exact not_givesUp_tireless hGivesUp

def overrunDefaults : Args where
  patterns := [⟨Text.ofString "(?:a?)\x7b10000000\x7d", Text.ofString "Overrun", none, none, none⟩]

def overrunSection : Json.Fields :=
  [(Text.ofString "custom_error_patterns", .list [.record
    [("regex", .ofString "(?:a?)\x7b10000000\x7d"), ("message", .ofString "Overrun")]])]

def overrunFile : List UInt8 :=
  "\x7b\"dmesg\":\x7b\"custom_error_patterns\":[\x7b\"regex\":\"(?:a?)\x7b10000000\x7d\",\"message\":\"Overrun\"\x7d]\x7d\x7d".toList.map
    fun c => c.toNat.toUInt8

/-- A request that leaves everything to the defaults. -/
def plainRequest : Request where
  method := Text.ofString "POST"
  url := Text.ofString "/api/v1/analyze/dmesg"
  contentType := some (Text.ofString "application/json")
  body := some (Text.ofString "\x7b\"content\":\"\"\x7d")

theorem asks_plain : plainRequest.Asks [] [] where
  brought := by
    refine ⟨[(Text.ofString "content", .text [])], ⟨?_, by decide +kernel⟩, rfl, .inr ⟨rfl, rfl⟩⟩
    exact readBody_of_parse (by decide +kernel) rfl (by decide +kernel) rfl
      (by decide +kernel) (by decide +kernel)

/-- Defaults that load and fail every request that leaves the rules to them. -/
theorem configured_overrun :
    Config.loadFile (some overrunFile) = .ok overrunDefaults ∧ plainRequest.Asks [] [] ∧
      (∀ entry ∈ Args.known, Args.Accepted [] entry) ∧
      (respond overrunDefaults plainRequest).status = 500 := by
  have hHolds : Config.Holds overrunFile overrunSection :=
    ⟨[(Text.ofString "dmesg", .object overrunSection)], by decide +kernel, rfl⟩
  refine ⟨?_, asks_plain, ?_, by decide +kernel⟩
  · rw [Config.loadFile_of_holds hHolds (rfl : _ = Checked.valid overrunDefaults),
      Config.checkPatterns_eq_ok_iff]
    refine ⟨rfl, List.forall_mem_singleton.mpr (RawRule.compiles_iff.mpr ?_)⟩
    decide +kernel
  · exact Args.exists_settled_iff (a := overrunDefaults).mp ⟨overrunDefaults, rfl⟩

end LogTriage.Service
