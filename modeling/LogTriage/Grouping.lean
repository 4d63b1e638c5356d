import LogTriage.Occurrence
import LogTriage.Timestamp.Pruning
import LogTriage.Timestamp.Window

/-! # Grouping

Occurrences of one key make one group. The first of them settles the classification; every further one
counts, and adds its timestamp unless it is redundant beside those recorded. Groups stand in the order
of their first occurrences.
-/

namespace LogTriage

set_option autoImplicit false

/-- The occurrences of one key so far. `rule` is the rule of the first. -/
structure Group where
  rule : Rule
  content : MatchContent
  source : Text
  count : Nat
  timestamps : List Text

namespace Group

def key (g : Group) : Text := g.content.key

def first (source : Text) (o : Occurrence) : Group :=
  ⟨o.rule, o.content, source, 1, o.timestamp.toList⟩

def add (interval : Number) (g : Group) (o : Occurrence) : Group × List LogEntry :=
  let g := { g with count := g.count + 1 }
  match o.timestamp with
  | none => (g, [])
  | some t =>
    let (redundant, log) := Timestamp.isRedundant interval t g.timestamps
    (if redundant then g else { g with timestamps := g.timestamps ++ [t] }, log)

/-- The event that a group makes, its timestamps passed through `bounded`. -/
def event (bounded : List Text → List Text) (g : Group) : Event :=
  { category := g.rule.category
    severity := g.rule.severity
    description := g.rule.message
    content := g.content
    source := g.source
    count := g.count
    times := .ofGroup (bounded g.timestamps) }

/-- The event of a group, the bound on its timestamps being checked. A group without timestamps has none
to bound. -/
def boundedEvent (keep : Number) (g : Group) : Except Timestamp.BadLimit Event :=
  if g.timestamps = [] then .ok (g.event id)
  else (Timestamp.pruneTo keep g.timestamps).map fun ts => g.event fun _ => ts

end Group

abbrev Grouping := List Group

namespace Grouping

structure Recorded where
  groups : Grouping
  /-- The group that the occurrence went into, as it now stands. -/
  group : Group
  log : List LogEntry

def record (interval : Number) (source : Text) (o : Occurrence) : Grouping → Recorded
  | [] => ⟨[Group.first source o], Group.first source o, []⟩
  | g :: rest =>
    if g.key = o.key then
      let (g, log) := g.add interval o
      ⟨g :: rest, g, log⟩
    else
      let r := record interval source o rest
      ⟨g :: r.groups, r.group, r.log⟩

def recordAll (interval : Number) (source : Text) :
    Grouping → List Occurrence → Grouping × List LogEntry
  | groups, [] => (groups, [])
  | groups, o :: rest =>
    let r := record interval source o groups
    let (groups, log) := recordAll interval source r.groups rest
    (groups, r.log ++ log)

end Grouping
end LogTriage
