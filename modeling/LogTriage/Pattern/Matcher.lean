import LogTriage.Pattern.CharSet
import LogTriage.Pattern.Cursor

/-! # Matching at a place

`run` tries a tree at a cursor and hands every way in which it holds, best first, to a continuation,
until one is accepted. Rounds of a repetition that read nothing are refused once the least number of
rounds is reached, so the units ahead bound the number of rounds.
-/

namespace LogTriage.Pattern

set_option autoImplicit false

/-- Where a match stands and what its groups have read; a group that took no part is absent. -/
structure State where
  cursor : Cursor
  groups : List (Option Text)

namespace State

def setGroup (s : State) (index : Nat) (t : Text) : State :=
  { s with groups := s.groups.set index (some t) }

def clear (s : State) (inner : GroupSpan) : State :=
  if inner.count = 0 then s
  else
    { s with groups := s.groups.take inner.first ++ List.replicate inner.count none ++
        s.groups.drop (inner.first + inner.count) }

def group (s : State) (index : Nat) : Option Text := (s.groups[index]?).join

end State

abbrev Continuation := State → Option State

abbrev Step := State → Continuation → Option State

namespace Matcher

def exactly (round : Step) : Nat → Step
  | 0, s, k => k s
  | n + 1, s, k => round s fun s' => exactly round n s' k

/-- Up to `most` rounds, each of which reads something; the units of `room` count the rounds that are
possible at all. -/
def upTo (round : Step) (greedy : Bool) : Text → Option Nat → Step
  | [], _, s, k => k s
  | _ :: room, most, s, k =>
    if most = some 0 then k s
    else
      let again := fun (_ : Unit) =>
        round s fun s' =>
          if s'.cursor.index = s.cursor.index then none
          else upTo round greedy room (most.map (· - 1)) s' k
      if greedy then (again ()).orElse fun _ => k s else (k s).orElse again

/-- The characters of `cs` in turn, read without regard to case where the flags say so. -/
def readChars (f : Flags) (dir : Direction) : List Nat → Cursor → Option Cursor
  | [], c => some c
  | d :: ds, c =>
    match c.read f.unicode dir with
    | some (e, next) => if f.canonical e == f.canonical d then readChars f dir ds next else none
    | none => none

def charsOf (f : Flags) (t : Text) : List Nat :=
  if f.unicode then Text.codePoints t else t.map (·.toNat)

def readAgain (f : Flags) (dir : Direction) (t : Text) (c : Cursor) : Option Cursor :=
  match dir with
  | .forward => readChars f .forward (charsOf f t) c
  | .backward => readChars f .backward (charsOf f t).reverse c

def headIs (p : Nat → Bool) (t : Text) : Bool := (t.head?.map fun u => p u.toNat).getD false

def holds (f : Flags) (a : Assertion) (c : Cursor) : Bool :=
  match a with
  | .start => c.before.isEmpty || (f.multiline && headIs Text.isLineEnd c.before)
  | .stop => c.after.isEmpty || (f.multiline && headIs Text.isLineEnd c.after)
  | .boundary negated => (headIs f.isWord c.before != headIs f.isWord c.after) != negated

def run (f : Flags) : Tree → Direction → Step
  | .empty, _, s, k => k s
  | .char test, dir, s, k =>
    match s.cursor.read f.unicode dir with
    | some (c, next) => if test.accepts f c then k { s with cursor := next } else none
    | none => none
  | .seq a b, .forward, s, k => run f a .forward s fun s' => run f b .forward s' k
  | .seq a b, .backward, s, k => run f b .backward s fun s' => run f a .backward s' k
  | .alt a b, dir, s, k => (run f a dir s k).orElse fun _ => run f b dir s k
  | .group index body, dir, s, k =>
    run f body dir s fun s' => k (s'.setGroup index (s.cursor.between s'.cursor))
  | .reference index, dir, s, k =>
    match s.group index with
    | none => k s
    | some t =>
      match readAgain f dir t s.cursor with
      | some next => k { s with cursor := next }
      | none => none
  | .assertion a, _, s, k => if holds f a s.cursor then k s else none
  | .look ahead negated body, _, s, k =>
    match run f body (if ahead then .forward else .backward) s some with
    | some s' => if negated then none else k { s with groups := s'.groups }
    | none => if negated then k s else none
  | .repeated body least most greedy inner, dir, s, k =>
    let round : Step := fun s k => run f body dir (s.clear inner) k
    exactly round least s fun s' =>
      upTo round greedy (s'.cursor.ahead dir) (most.map (· - least)) s' k

end Matcher
end LogTriage.Pattern
