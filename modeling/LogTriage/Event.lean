import LogTriage.Json
import LogTriage.Text.Quoted
import LogTriage.Text.Upper

/-! # Events

An event says that a rule matched: its category and severity, what was matched, how often and when.
Categories and priorities are closed sets, and `ofName?` reads a free-form name into them.
-/

namespace LogTriage

set_option autoImplicit false

inductive Category where
  | ssh
  | ras
  | io
  | os
  | platform
  | application
  | memory
  | storage
  | compute
  | fw
  | swDriver
  | bios
  | infrastructure
  | runtime
  | unknown
  deriving DecidableEq, Repr

namespace Category

def all : List Category :=
  [.ssh, .ras, .io, .os, .platform, .application, .memory, .storage, .compute, .fw, .swDriver, .bios,
    .infrastructure, .runtime, .unknown]

theorem mem_all (c : Category) : c ∈ all := by cases c <;> decide

def name : Category → String
  | ssh => "SSH"
  | ras => "RAS"
  | io => "IO"
  | os => "OS"
  | platform => "PLATFORM"
  | application => "APPLICATION"
  | memory => "MEMORY"
  | storage => "STORAGE"
  | compute => "COMPUTE"
  | fw => "FW"
  | swDriver => "SW_DRIVER"
  | bios => "BIOS"
  | infrastructure => "INFRASTRUCTURE"
  | runtime => "RUNTIME"
  | unknown => "UNKNOWN"

/-- The category that is spelled exactly so. -/
def ofExactName? (t : Text) : Option Category := all.find? fun c => Text.ofString c.name == t

/-- Blanks and hyphens within a name stand for underscores. -/
def joinWords (t : Text) : Text :=
  t.map fun u => if Text.isBlank u.toNat || u == 0x2D then 0x5F else u

def ofName? (t : Text) : Option Category := ofExactName? (joinWords (Text.trim t).upper)

end Category

inductive Priority where
  | info
  | warning
  | error
  | critical
  deriving DecidableEq, Repr

namespace Priority

/-- Lowest first. -/
def all : List Priority := [.info, .warning, .error, .critical]

theorem mem_all (p : Priority) : p ∈ all := by cases p <;> decide

def name : Priority → String
  | info => "INFO"
  | warning => "WARNING"
  | error => "ERROR"
  | critical => "CRITICAL"

def rank : Priority → Nat
  | info => 1
  | warning => 2
  | error => 3
  | critical => 4

def ofName? (t : Text) : Option Priority :=
  all.find? fun p => Text.ofString p.name == (Text.trim t).upper

def ofRank? (n : Number) : Option Priority := all.find? fun p => n.nat? == some p.rank

def isAtLeast (p threshold : Priority) : Bool := threshold.rank ≤ p.rank

end Priority

/-- What was matched: one text, or the texts of several groups or lines. -/
inductive MatchContent where
  | single (t : Text)
  | several (ts : List Text)
  deriving DecidableEq

namespace MatchContent

def ofKept : List Text → MatchContent
  | [t] => .single t
  | ts => .several ts

/-- The groups of a match, or the whole of it where the pattern has no groups. A whole match of more
than one line is trimmed and taken line by line. Empty parts are dropped, and a part that is left alone
stands for itself. -/
def ofMatch (whole : Text) (groups : List (Option Text)) : MatchContent :=
  if groups.isEmpty then
    if whole.contains Text.newline then ofKept ((Text.lines (Text.trim whole)).filter (· ≠ []))
    else .single whole
  else ofKept (groups.reduceOption.filter (· ≠ []))

/-- The content as JSON text. Quoting keeps the boundaries between texts, so different contents have
different keys. -/
def key : MatchContent → Text
  | single t => Text.Quoted.encode t
  | several ts =>
    Text.ofString "[" ++ (Text.ofString ",").intercalate (ts.map Text.Quoted.encode) ++
      Text.ofString "]"

def toJson : MatchContent → Json
  | single t => .text t
  | several ts => .list (ts.map .text)

end MatchContent

/-- When an event was seen: the timestamps of a group of matches, or that of one match. -/
inductive Times where
  | ofGroup (timestamps : List Text)
  | ofMatch (timestamp : Option Text)
  deriving DecidableEq

structure Event where
  category : Category
  severity : Priority
  description : Text
  content : MatchContent
  source : Text
  count : Nat
  times : Times
  deriving DecidableEq

namespace Event

def toJson (e : Event) : Json :=
  let times : List (String × Option Json) := match e.times with
    | .ofGroup [] | .ofMatch none => []
    | .ofGroup ts => [("timestamps", some (.list (ts.map .text)))]
    | .ofMatch (some t) => [("timestamp", some (.text t))]
  let data := [("match_content", some e.content.toJson), ("source", some (.text e.source)),
    ("count", some (.ofNat e.count))] ++ times
  .record [("category", .ofString e.category.name), ("severity", .ofString e.severity.name),
    ("description", .text e.description), ("data", .recordOf data)]

end Event
end LogTriage
