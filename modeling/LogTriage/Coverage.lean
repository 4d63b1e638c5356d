import LogTriage.Engine
import LogTriage.Rule

/-! # Covered lines

A match covers every line that it touches, from the line of its first unit to that of its last; one
that reads nothing covers the line it stands on. A newline belongs to the line it ends.
-/

namespace LogTriage.Coverage

set_option autoImplicit false

def lineStarts (offset : Nat) : List Text → List Nat
  | [] => []
  | line :: rest => offset :: lineStarts (offset + line.length + 1) rest

/-- The last line from `low` to `high` that begins at `offset` or before it, found by halving the
range. -/
def bisect (starts : List Nat) (offset low high : Nat) : Nat :=
  if low < high then
    let middle := (low + high + 1) / 2
    if starts.getD middle 0 ≤ offset then bisect starts offset middle high
    else bisect starts offset low (middle - 1)
  else low
termination_by high - low

def lineIndexAt (starts : List Nat) (offset : Nat) : Nat :=
  bisect starts offset 0 (starts.length - 1)

/-- First and last position that a match touches. -/
def touched (m : Pattern.Found) : Nat × Nat :=
  (m.index, m.index + (m.stop.index - m.index - 1))

/-- First and last line that a match covers. -/
def span (starts : List Nat) (m : Pattern.Found) : Nat × Nat :=
  (lineIndexAt starts (touched m).1, lineIndexAt starts (touched m).2)

def lineSpans (content : Text) (rules : List Rule) : List (Nat × Nat) :=
  let starts := lineStarts 0 content.lines
  rules.flatMap fun rule => (rule.pattern.scan content).map (span starts)

def isCovered (spans : List (Nat × Nat)) (line : Nat) : Bool :=
  spans.any fun span => span.1 ≤ line && line ≤ span.2

def outside (spans : List (Nat × Nat)) (lines : List Text) : List Text :=
  (lines.zipIdx.filter fun entry => !isCovered spans entry.2).map (·.1)

def uncoveredLines (content : Text) (rules : List Rule) : List Text :=
  outside (lineSpans content rules) content.lines

def uncovered (content : Text) (rules : List Rule) : Text :=
  Text.ofLines (uncoveredLines content rules)

def searchUncovered (e : Engine) (content : Text) (rules : List Rule) : Except Failure Text := do
  let starts := lineStarts 0 content.lines
  let spans ← rules.mapM fun rule => e.scan rule.pattern content fun m => return span starts m
  return Text.ofLines (outside spans.flatten content.lines)

end LogTriage.Coverage
