import LogTriage.Event

/-! # Status of a run -/

namespace LogTriage

set_option autoImplicit false

/-- Lowest first. -/
inductive Status where
  | unset
  | notRan
  | ok
  | warning
  | error
  | executionFailure
  deriving DecidableEq, Repr

namespace Status

def all : List Status := [.unset, .notRan, .ok, .warning, .error, .executionFailure]

def name : Status → String
  | unset => "UNSET"
  | notRan => "NOT_RAN"
  | ok => "OK"
  | warning => "WARNING"
  | error => "ERROR"
  | executionFailure => "EXECUTION_FAILURE"

/-- An error or worse makes an error, else a warning makes a warning. -/
def ofSeverities (severities : List Priority) : Status :=
  if severities.any (·.isAtLeast .error) then .error
  else if severities.contains .warning then .warning
  else .ok

def ofEvents (events : List Event) : Status := ofSeverities (events.map (·.severity))

end Status
end LogTriage
