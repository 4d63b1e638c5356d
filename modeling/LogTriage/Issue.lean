import LogTriage.Json

/-! # Issues

What is wrong with input that is refused: a text for the whole, and an issue for each place that is at
fault. The place is a path of dot-joined parts, empty for the whole input.
-/

namespace LogTriage

set_option autoImplicit false

structure Issue where
  path : Text
  message : Text
  deriving DecidableEq

structure Refusal where
  message : Text
  issues : List Issue
  deriving DecidableEq

namespace Issue

def toJson (i : Issue) : Json := .record [("path", .text i.path), ("message", .text i.message)]

/-- The same issue seen from outside: its path begins with `part`. -/
def within (part : Text) (i : Issue) : Issue := { i with path := part ++ Text.ofString "." ++ i.path }

end Issue
end LogTriage
