import LogTriage.Log
import LogTriage.Timestamp

/-! # Repeated timestamps

A timestamp adds nothing to those already recorded when it lies closer than an interval to one of
them. Two timestamps are compared only if both can be read and either both or neither name an offset.
-/

namespace LogTriage.Timestamp

set_option autoImplicit false

def distance (a b : Rat) : Rat :=
  let d := Binary64.nearest (a - b)
  if d < 0 then -d else d

/-- Strictly closer than `interval` seconds. -/
def isClose (interval : Number) (new recorded : Text) : Bool :=
  match parse new, parse recorded with
  | some a, some b =>
    hasOffset recorded == hasOffset new &&
      (Number.finite (distance a b)).lt (interval.scaleBy 1000)
  | _, _ => false

/-- Whether `new` may be left out beside the `recorded` timestamps. One that cannot be read is kept,
with a warning. -/
def isRedundant (interval : Number) (new : Text) (recorded : List Text) : Bool × List LogEntry :=
  match parse new with
  | none => (false, [.unreadableTimestamp new])
  | some _ => (recorded.any (isClose interval new), [])

end LogTriage.Timestamp
