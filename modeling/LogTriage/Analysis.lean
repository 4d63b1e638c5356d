import LogTriage.Grouping

/-! # Analysis

An analysis runs an ordered list of rules over one text. Grouped, its events are the groups of all
occurrences; ungrouped, every occurrence is an event. The limits are checked before any rule runs, and the
one on timestamps again for each group. `run` is what comes of an analysis if every search is carried
through; the engine of `guarded` may give up one of them, which ends the analysis without any events.
-/

namespace LogTriage

set_option autoImplicit false

namespace Analysis

structure Settings where
  group : Bool := true
  /-- Timestamps kept at either end of a list. -/
  keep : Number := .finite 3
  /-- Seconds within which a repeated timestamp is redundant. -/
  interval : Number := .finite 60
  stamps : Pattern := Timestamp.usualPattern

inductive Fault where
  | keep (given : Number)
  | interval (given : Number)
  deriving DecidableEq

def Fault.issue : Fault → Issue
  | keep given =>
    ⟨Text.ofString "numTimestamps",
      Text.ofString "Must be an integer of at least 1, got " ++ given.text⟩
  | interval given =>
    ⟨Text.ofString "collapseIntervalSeconds",
      Text.ofString "Must be a non-negative number, got " ++ given.text⟩

def refusal (faults : List Fault) : Refusal :=
  ⟨Text.ofString "Invalid analysis options", faults.map (·.issue)⟩

structure Limits where
  keep : Nat
  interval : Rat
  deriving DecidableEq

def Limits.check (keep interval : Number) : Except (List Fault) Limits :=
  match keep.positive?, interval.nonNegative? with
  | some k, some i => .ok ⟨k, i⟩
  | none, some _ => .error [.keep keep]
  | some _, none => .error [.interval interval]
  | none, none => .error [.keep keep, .interval interval]

structure Result where
  events : List Event
  log : List LogEntry

def ungroupedEvents (source : Text) (occurrences : List Occurrence) : List Event :=
  occurrences.map (·.event source)

def groupedEvents (limits : Limits) (groups : Grouping) : List Event :=
  groups.map (·.event (Timestamp.prune limits.keep))

/-- An analysis under limits that are known to be in range. -/
def within (limits : Limits) (group : Bool) (stamps : Pattern) (content source : Text)
    (rules : List Rule) : Result :=
  let occurrences := Occurrence.all stamps content rules
  let (events, warnings) :=
    if group then
      let (groups, warnings) := Grouping.recordAll (.finite limits.interval) source [] occurrences
      (groupedEvents limits groups, warnings)
    else (ungroupedEvents source occurrences, [])
  ⟨events, warnings ++
    [.analysisComplete source rules.length occurrences.length events.length group]⟩

def run (content source : Text) (rules : List Rule) (settings : Settings) :
    Except (List Fault) Result :=
  (Limits.check settings.keep settings.interval).map fun limits =>
    within limits settings.group settings.stamps content source rules

/-! ## Analyses that are stopped -/

/-- What stops an analysis. -/
inductive Stop where
  | settings (faults : List Fault)
  | bound (e : Timestamp.BadLimit)
  | engine (failure : Failure)

def Stop.message : Stop → Text
  | settings faults => (refusal faults).message
  | bound e => e.message
  | engine failure => failure.message

def guarded (e : Engine) (content source : Text) (rules : List Rule) (settings : Settings) :
    Except Stop Result := do
  let _ ← (Limits.check settings.keep settings.interval).mapError Stop.settings
  let occurrences ← (Occurrence.search e settings.stamps content rules).mapError Stop.engine
  let note (events : List Event) : LogEntry :=
    .analysisComplete source rules.length occurrences.length events.length settings.group
  if settings.group then
    let (groups, warnings) := Grouping.recordAll settings.interval source [] occurrences
    let events ← (groups.mapM (Group.boundedEvent settings.keep)).mapError Stop.bound
    return ⟨events, warnings ++ [note events]⟩
  else
    let events := ungroupedEvents source occurrences
    return ⟨events, [note events]⟩

end Analysis
end LogTriage
