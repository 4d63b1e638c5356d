import LogTriage.Pattern.Scan

/-! # Finding timestamps

The timestamp of a match is looked for on the line that the match begins on, and nowhere else.
-/

namespace LogTriage.Timestamp

set_option autoImplicit false

def usualPattern : Pattern :=
  Pattern.literal "(\\d\x7b4\x7d-\\d+-\\d+T\\d+:\\d+:\\d+,\\d+[+-]\\d+:\\d+)" {}

/-- What the first hit on a line names: its first group, or the whole hit where there are no groups.
An empty or absent group names nothing. -/
def onLine (pattern : Pattern) (line : Text) : Option Text :=
  match pattern.first line with
  | none => none
  | some hit =>
    let value := match hit.groups with
      | [] => some hit.text
      | group :: _ => group
    value.filter (· ≠ [])

def extract (pattern : Pattern) (content : Text) (p : Nat) : Option Text :=
  onLine pattern (Text.lineAt content p)

end LogTriage.Timestamp
