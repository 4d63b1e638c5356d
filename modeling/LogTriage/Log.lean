import LogTriage.Issue

/-! # Log entries

What an analysis has to say about its own run, in the order in which it happens.
-/

namespace LogTriage

set_option autoImplicit false

inductive LogEntry where
  | unreadableTimestamp (timestamp : Text)
  | analysisComplete (source : Text) (ruleCount matchCount eventCount : Nat) (group : Bool)
  | rangeFilter (start stop : Option Text)
  | badCustomPattern (issues : List Issue)
  deriving DecidableEq

namespace LogEntry

def level : LogEntry → String
  | unreadableTimestamp _ => "warn"
  | analysisComplete .. => "debug"
  | rangeFilter .. => "info"
  | badCustomPattern _ => "error"

def message : LogEntry → String
  | unreadableTimestamp _ => "Failed to parse date from timestamp"
  | analysisComplete .. => "Regex analysis complete"
  | rangeFilter .. => "Filtering dmesg log by analysis range"
  | badCustomPattern _ => "Invalid custom error pattern"

def fields : LogEntry → Json
  | unreadableTimestamp t => .record [("timestamp", .text t)]
  | analysisComplete source ruleCount matchCount eventCount group =>
    .record [("source", .text source), ("ruleCount", .ofNat ruleCount),
      ("matchCount", .ofNat matchCount), ("eventCount", .ofNat eventCount), ("group", .bool group)]
  | rangeFilter start stop => .recordOf [("start", start.map .text), ("end", stop.map .text)]
  | badCustomPattern issues => .record [("issues", .list (issues.map (·.toJson)))]

def toJson (e : LogEntry) : Json :=
  .record [("level", .ofString e.level), ("fields", e.fields), ("msg", .ofString e.message)]

end LogEntry
end LogTriage
