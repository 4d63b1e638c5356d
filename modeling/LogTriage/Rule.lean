import LogTriage.Event
import LogTriage.Issue
import LogTriage.Number.Shortest
import LogTriage.Pattern

/-! # Rules

A rule says which text is worth an event and how to classify it. Rules arrive raw, with free-form names
in place of categories and priorities; compiling one reports every fault it has, and a list of rules is
refused at its first entry that does not compile.
-/

namespace LogTriage

set_option autoImplicit false

structure Rule where
  pattern : Pattern
  message : Text
  category : Category := .unknown
  severity : Priority := .error
  deriving DecidableEq

inductive RawSeverity where
  | name (t : Text)
  | rank (n : Number)
  deriving DecidableEq

namespace RawSeverity

def priority? : RawSeverity → Option Priority
  | name t => Priority.ofName? t
  | rank n => Priority.ofRank? n

def text : RawSeverity → Text
  | name t => t
  | rank n => n.text

def toJson : RawSeverity → Json
  | name t => .text t
  | rank n => .number n

end RawSeverity

structure RawRule where
  regex : Text
  message : Text
  flags : Option Text := none
  category : Option Text := none
  severity : Option RawSeverity := none
  deriving DecidableEq

namespace RawRule

inductive Fault where
  | flags (given : Text)
  | regex (error : Pattern.Error)
  | category (given : Text)
  | severity (given : RawSeverity)
  deriving DecidableEq

namespace Fault

def field : Fault → String
  | flags _ => "flags"
  | regex _ => "regex"
  | category _ => "category"
  | severity _ => "severity"

def message : Fault → Text
  | flags given =>
    Text.ofString "Unsupported regex flags \"" ++ given ++ Text.ofString "\" (allowed: i, m, s, u)"
  | regex error => Text.ofString "Invalid regex: " ++ error.message
  | category given => Text.ofString "Unknown event category \"" ++ given ++ Text.ofString "\""
  | severity given => Text.ofString "Unknown event priority \"" ++ given.text ++ Text.ofString "\""

end Fault

/-- The flags a raw rule may carry; those of scanning are not among them. -/
def isAllowedFlag (u : CodeUnit) : Bool := ['i', 'm', 's', 'u'].contains (Text.charOf u)

/-- The source is read only under flags that are allowed. -/
def pattern (raw : RawRule) : Except Fault Pattern :=
  let flags := raw.flags.getD []
  if flags.all isAllowedFlag then
    match Pattern.compile raw.regex flags with
    | .ok p => .ok p
    | .error e => .error (.regex e)
  else .error (.flags flags)

def eventCategory (raw : RawRule) : Except Fault Category :=
  match raw.category with
  | none => .ok .unknown
  | some given => match Category.ofName? given with
    | some c => .ok c
    | none => .error (.category given)

def eventSeverity (raw : RawRule) : Except Fault Priority :=
  match raw.severity with
  | none => .ok .error
  | some given => match given.priority? with
    | some p => .ok p
    | none => .error (.severity given)

def faultOf {α : Type} : Except Fault α → List Fault
  | .ok _ => []
  | .error fault => [fault]

def faults (raw : RawRule) : List Fault :=
  faultOf raw.pattern ++ faultOf raw.eventCategory ++ faultOf raw.eventSeverity

def compile (raw : RawRule) : Except (List Fault) Rule :=
  match raw.pattern, raw.eventCategory, raw.eventSeverity with
  | .ok pattern, .ok category, .ok severity => .ok ⟨pattern, raw.message, category, severity⟩
  | _, _, _ => .error raw.faults

def toJson (raw : RawRule) : Json :=
  .recordOf [("regex", some (.text raw.regex)), ("message", some (.text raw.message)),
    ("flags", raw.flags.map .text), ("category", raw.category.map .text),
    ("severity", raw.severity.map (·.toJson))]

end RawRule

/-- The raw rule at `index` is refused, with all its faults. -/
structure RuleError where
  index : Nat
  faults : List RawRule.Fault
  deriving DecidableEq

namespace RuleError

def issues (e : RuleError) : List Issue :=
  e.faults.map fun fault =>
    (Issue.mk (Text.ofString fault.field) fault.message).within (Text.ofNat e.index)

def refusal (e : RuleError) : Refusal :=
  ⟨Text.ofString "Invalid custom rule at index " ++ Text.ofNat e.index, e.issues⟩

end RuleError

inductive RuleSpec where
  | compiled (rule : Rule)
  | raw (rule : RawRule)

namespace RuleSpec

def compile (index : Nat) : RuleSpec → Except RuleError Rule
  | compiled rule => .ok rule
  | raw rule => match rule.compile with
    | .ok rule => .ok rule
    | .error faults => .error ⟨index, faults⟩

/-- The rules of a list, numbered from `index`, or the error of the first that does not compile. -/
def compileFrom (index : Nat) : List RuleSpec → Except RuleError (List Rule)
  | [] => .ok []
  | spec :: rest =>
    match spec.compile index with
    | .error e => .error e
    | .ok rule => match compileFrom (index + 1) rest with
      | .error e => .error e
      | .ok rules => .ok (rule :: rules)

def compose (custom : List RuleSpec) (base : List Rule) : Except RuleError (List Rule) :=
  (compileFrom 0 custom).map (· ++ base)

end RuleSpec

def RawRule.compose (custom : List RawRule) (base : List Rule) : Except RuleError (List Rule) :=
  RuleSpec.compose (custom.map .raw) base

end LogTriage
