import LogTriage.Analysis
import LogTriage.Schema.RawRule

/-! # Arguments of a kernel log analysis

Arguments come from a configuration file or a request. Written out as JSON they are accepted again and
give the same arguments, so a request may be laid over configured defaults field by field.
-/

namespace LogTriage.Dmesg

set_option autoImplicit false

structure Args where
  rangeStart : Option Text := none
  rangeEnd : Option Text := none
  /-- Whether lines of error level that no rule covers are reported. -/
  reportUnknown : Bool := true
  excluded : List Category := []
  patterns : List RawRule := []
  group : Bool := true
  keep : Nat := 3
  interval : Nat := 60
  deriving DecidableEq

namespace Args

def default : Args := {}

def limits (a : Args) : Analysis.Limits := ⟨a.keep, (a.interval : Rat)⟩

def settings (a : Args) : Analysis.Settings :=
  ⟨a.group, .finite a.keep, .finite a.interval, Timestamp.usualPattern⟩

open Schema

/-- A text that names an instant. -/
def timestamp : Check Text := fun path value =>
  (text 0 none path value).bind fun t =>
    if (Timestamp.parse t).isSome then .valid t
    else mismatch path (.unfit "Must be an ISO-8601 timestamp")

def category : Check Category := fun path value =>
  match value with
  | some (.text t) =>
    match Category.ofExactName? t with
    | some c => .valid c
    | none => mismatch path (.notAmong (Category.all.map (·.name)) t)
  | other => mismatch path (.noOption (Category.all.map (·.name)) (Kind.of other))

def ofFields (path : Path) (fs : Json.Fields) : Checked Args :=
  ((((((((field "analysis_range_start" (optional timestamp) path fs).both
    (field "analysis_range_end" (optional timestamp) path fs)).both
    (field "check_unknown_dmesg_errors" (withDefault true boolean) path fs)).both
    (field "exclude_category" (withDefault [] (listOf category)) path fs)).both
    (field "custom_error_patterns" (withDefault [] (listOf rawRule)) path fs)).both
    (field "group" (withDefault true boolean) path fs)).both
    (field "num_timestamps" (withDefault 3 (natural 1 none)) path fs)).both
    (field "interval_to_collapse_event" (withDefault 60 (natural 0 none)) path fs)).map
      fun (((((((rangeStart, rangeEnd), reportUnknown), excluded), patterns), group), keep),
          interval) =>
        ⟨rangeStart, rangeEnd, reportUnknown, excluded, patterns, group, keep, interval⟩

def check : Check Args := fun path value => (fields path value).bind (ofFields path)

def toFields (a : Args) : Json.Fields :=
  ([("analysis_range_start", a.rangeStart.map .text), ("analysis_range_end", a.rangeEnd.map .text),
    ("check_unknown_dmesg_errors", some (.bool a.reportUnknown)),
    ("exclude_category", some (.list (a.excluded.map fun c => .ofString c.name))),
    ("custom_error_patterns", some (.list (a.patterns.map (·.toJson)))),
    ("group", some (.bool a.group)), ("num_timestamps", some (.ofNat a.keep)),
    ("interval_to_collapse_event", some (.ofNat a.interval))] : List (String × Option Json)).filterMap
      fun entry => entry.2.map fun value => (Text.ofString entry.1, value)

def toJson (a : Args) : Json := .object a.toFields

/-- The arguments with the fields of a request laid over them. -/
def overlay (a : Args) (given : Json.Fields) : Checked Args :=
  check [] (some (.object (Json.Fields.overlay a.toFields given)))

end Args
end LogTriage.Dmesg
