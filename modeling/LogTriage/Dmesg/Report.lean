import LogTriage.Coverage
import LogTriage.Dmesg.Args
import LogTriage.Dmesg.Range
import LogTriage.Rule.Kernel
import LogTriage.Status

/-! # Kernel log reports

A report narrows the log to the range asked for, puts custom rules before the base rules, analyses,
and then looks at the lines that no rule covered for errors nobody knows. Excluded categories are left
out last, so the status is that of the events shown. Custom rules that do not compile end the report
before anything is analysed. `report` is what comes of it if every search is carried through; the engine of
`guardedReport` may give up, and then there is no report.
-/

namespace LogTriage.Dmesg

set_option autoImplicit false

structure Report where
  status : Status
  message : Text
  events : List Event

structure Outcome where
  report : Report
  log : List LogEntry

namespace Report

def task : String := "DmesgAnalyzer"

def source : Text := Text.ofString "dmesg"

def statusMessage : Status → String
  | .error => "Dmesg errors detected"
  | .warning => "Dmesg warnings detected"
  | _ => "No dmesg errors found"

def ofEvents (events : List Event) : Report :=
  let status := Status.ofEvents events
  ⟨status, Text.ofString (statusMessage status), events⟩

def ofRuleError (e : RuleError) : Report :=
  let details := e.issues.map fun i => i.path ++ Text.ofString ": " ++ i.message
  ⟨.executionFailure,
    Text.ofString "Invalid custom error pattern: " ++ (Text.ofString "; ").intercalate details, []⟩

def toJson (r : Report) : Json :=
  .record [("task", .ofString task), ("status", .ofString r.status.name),
    ("message", .text r.message), ("events", .list (r.events.map (·.toJson)))]

end Report

/-- The part of the log that the range of the arguments selects, and the note that it was narrowed. -/
def scope (args : Args) (content : Text) : Text × List LogEntry :=
  let start := args.rangeStart.bind Timestamp.parse
  let stop := args.rangeEnd.bind Timestamp.parse
  if start.isSome || stop.isSome then
    (filterRange start stop content, [.rangeFilter args.rangeStart args.rangeEnd])
  else (content, [])

def analyse (args : Args) (rules : List Rule) (content : Text) : Analysis.Result :=
  let pass := Analysis.within args.limits args.group Timestamp.usualPattern
  let known := pass content Report.source rules
  if args.reportUnknown then
    let unknown := pass (Coverage.uncovered content rules) Report.source [Rule.unknownError]
    ⟨known.events ++ unknown.events, known.log ++ unknown.log⟩
  else known

def keptEvents (args : Args) (events : List Event) : List Event :=
  events.filter fun e => !args.excluded.contains e.category

def report (base : List Rule) (args : Args) (content : Text) : Outcome :=
  let (searched, note) := scope args content
  match RawRule.compose args.patterns base with
  | .error e => ⟨Report.ofRuleError e, note ++ [.badCustomPattern e.issues]⟩
  | .ok rules =>
    let result := analyse args rules searched
    ⟨Report.ofEvents (keptEvents args result.events), note ++ result.log⟩

/-! ## Reports that are stopped -/

open Analysis (Stop)

def searchScope (e : Engine) (args : Args) (content : Text) : Except Failure (Text × List LogEntry) := do
  let start := args.rangeStart.bind Timestamp.parse
  let stop := args.rangeEnd.bind Timestamp.parse
  if start.isSome || stop.isSome then
    return (← searchRange e start stop content, [.rangeFilter args.rangeStart args.rangeEnd])
  else return (content, [])

/-- The events of errors nobody knows are added to the others in one call. -/
def guardedAnalyse (e : Engine) (args : Args) (rules : List Rule) (content : Text) :
    Except Stop Analysis.Result := do
  let known ← Analysis.guarded e content Report.source rules args.settings
  if args.reportUnknown then
    let rest ← (Coverage.searchUncovered e content rules).mapError Stop.engine
    let unknown ← Analysis.guarded e rest Report.source [Rule.unknownError] args.settings
    let added ← (e.pass unknown.events).mapError Stop.engine
    return ⟨known.events ++ added, known.log ++ unknown.log⟩
  else return known

def guardedReport (e : Engine) (base : List Rule) (args : Args) (content : Text) :
    Except Stop Outcome := do
  let (searched, note) ← (searchScope e args content).mapError Stop.engine
  match RawRule.compose args.patterns base with
  | .error refused => return ⟨Report.ofRuleError refused, note ++ [.badCustomPattern refused.issues]⟩
  | .ok rules =>
    let result ← guardedAnalyse e args rules searched
    return ⟨Report.ofEvents (keptEvents args result.events), note ++ result.log⟩

end LogTriage.Dmesg
