import LogTriage.Pattern

/-! # Scanning

All matches of a pattern in a text, from left to right. The flags `g` and `y` play no part: a scan
always looks for the leftmost match, goes on where it ends, and steps one character ahead after a match
that read nothing.
-/

namespace LogTriage.Pattern

set_option autoImplicit false

/-- A match: where it begins and ends, and what its groups have read. -/
structure Found where
  first : Cursor
  stop : Cursor
  groups : List (Option Text)

namespace Found

def index (m : Found) : Nat := m.first.index

def text (m : Found) : Text := m.first.between m.stop

def isEmpty (m : Found) : Bool := m.first.index == m.stop.index

end Found

def matchAt (p : Pattern) (c : Cursor) : Option Found :=
  (Matcher.run p.flags p.tree .forward ⟨c, List.replicate p.groupCount none⟩ some).map
    fun s => ⟨c, s.cursor, s.groups⟩

def stepOver (p : Pattern) (c : Cursor) : Option Cursor :=
  (c.readForward p.flags.unicode).map (·.2)

/-- The first match at the cursor or after it; the units of `room` bound the steps to the right. -/
def searchIn (p : Pattern) : Text → Cursor → Option Found
  | [], c => matchAt p c
  | _ :: room, c =>
    match matchAt p c with
    | some m => some m
    | none => (stepOver p c).bind (searchIn p room)

def find (p : Pattern) (c : Cursor) : Option Found := searchIn p c.after c

def resume (step : Cursor → Option Cursor) (m : Found) : Option Cursor :=
  if m.isEmpty then step m.stop else some m.stop

/-- The matches that `find` names one after the other; the units of `room` bound their number. -/
def enumerate (find : Cursor → Option Found) (step : Cursor → Option Cursor) :
    Text → Cursor → List Found
  | [], c => (find c).toList
  | _ :: room, c =>
    match find c with
    | none => []
    | some m =>
      m :: match resume step m with
        | some next => enumerate find step room next
        | none => []

def scan (p : Pattern) (t : Text) : List Found :=
  enumerate (find p) (stepOver p) t (Cursor.start t)

def first (p : Pattern) (t : Text) : Option Found := find p (Cursor.start t)

end LogTriage.Pattern
