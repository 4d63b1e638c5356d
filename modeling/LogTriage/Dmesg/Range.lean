import LogTriage.Engine
import LogTriage.Timestamp

/-! # Analysis range

The lines of a log from the first timestamp at or after `start` up to the first later one at or after
`stop`. A line without a readable timestamp goes with the line before it. Blank lines are dropped.
-/

namespace LogTriage.Dmesg

set_option autoImplicit false

def lineInstant (line : Text) : Option Rat :=
  (Timestamp.extract Timestamp.usualPattern line 0).bind Timestamp.parse

/-- Whether a bound is given and has been reached. -/
def reached (bound instant : Option Rat) : Bool :=
  match bound, instant with
  | some b, some t => b ≤ t
  | _, _ => false

/-- The lines to keep; `inside` tells whether the range has begun. The line that opens the range is not
measured against its end. -/
def linesInRange (start stop : Option Rat) : Bool → List Text → List Text
  | _, [] => []
  | inside, line :: rest =>
    if line = [] then linesInRange start stop inside rest
    else
      let instant := lineInstant line
      if !inside && reached start instant then line :: linesInRange start stop true rest
      else if reached stop instant then []
      else if inside then line :: linesInRange start stop inside rest
      else linesInRange start stop inside rest

/-- The kept lines, each with a newline after it. -/
def filterRange (start stop : Option Rat) (content : Text) : Text :=
  (linesInRange start stop start.isNone content.lines).flatMap (· ++ [Text.newline])

/-- The lines to keep, looked through by an engine as far as the end of the range. -/
def searchLines (e : Engine) (start stop : Option Rat) : Bool → List Text → Except Failure (List Text)
  | _, [] => return []
  | inside, line :: rest =>
    if line = [] then searchLines e start stop inside rest
    else do
      let instant := (← e.extract Timestamp.usualPattern line 0).bind Timestamp.parse
      if !inside && reached start instant then return line :: (← searchLines e start stop true rest)
      else if reached stop instant then return []
      else if inside then return line :: (← searchLines e start stop inside rest)
      else searchLines e start stop inside rest

def searchRange (e : Engine) (start stop : Option Rat) (content : Text) : Except Failure Text := do
  return (← searchLines e start stop start.isNone content.lines).flatMap (· ++ [Text.newline])

end LogTriage.Dmesg
