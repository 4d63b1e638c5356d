import LogTriage.Engine
import LogTriage.Event
import LogTriage.Rule

/-! # Occurrences

One occurrence for every match of every rule: the rules in their order, and the matches of each from
left to right. An engine looks for the timestamp of a match before it goes on to the next match.
-/

namespace LogTriage

set_option autoImplicit false

structure Occurrence where
  rule : Rule
  content : MatchContent
  timestamp : Option Text

namespace Occurrence

def ofFound (stamps : Pattern) (content : Text) (rule : Rule) (m : Pattern.Found) : Occurrence :=
  ⟨rule, MatchContent.ofMatch m.text m.groups, Timestamp.extract stamps content m.index⟩

def ofRule (stamps : Pattern) (content : Text) (rule : Rule) : List Occurrence :=
  (rule.pattern.scan content).map (ofFound stamps content rule)

def all (stamps : Pattern) (content : Text) (rules : List Rule) : List Occurrence :=
  rules.flatMap (ofRule stamps content)

def searchRule (e : Engine) (stamps : Pattern) (content : Text) (rule : Rule) :
    Except Failure (List Occurrence) :=
  e.scan rule.pattern content fun m => do
    let timestamp ← e.extract stamps content m.index
    return ⟨rule, MatchContent.ofMatch m.text m.groups, timestamp⟩

def search (e : Engine) (stamps : Pattern) (content : Text) (rules : List Rule) :
    Except Failure (List Occurrence) := do
  return (← rules.mapM (searchRule e stamps content)).flatten

theorem all_append (stamps : Pattern) (content : Text) (first second : List Rule) :
    all stamps content (first ++ second) = all stamps content first ++ all stamps content second := by
  simp [all]

def key (o : Occurrence) : Text := o.content.key

def event (source : Text) (o : Occurrence) : Event :=
  { category := o.rule.category
    severity := o.rule.severity
    description := o.rule.message
    content := o.content
    source := source
    count := 1
    times := .ofMatch o.timestamp }

end Occurrence
end LogTriage
