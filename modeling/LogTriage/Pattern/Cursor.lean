import LogTriage.Text

/-! # Cursors

A cursor is a place in a text: the units before it, nearest first, and the units after it. Looking
behind reads the units before, so both directions are one step on a list.
-/

namespace LogTriage.Pattern

set_option autoImplicit false

inductive Direction where
  | forward
  | backward
  deriving DecidableEq, Repr

structure Cursor where
  before : Text
  after : Text
  index : Nat
  index_eq : index = before.length := by rfl

namespace Cursor

def start (t : Text) : Cursor := ⟨[], t, 0, rfl⟩

def text (c : Cursor) : Text := c.before.reverse ++ c.after

@[simp] theorem text_start (t : Text) : (start t).text = t := by simp [start, text]

theorem ext_iff_parts (a b : Cursor) : a = b ↔ a.before = b.before ∧ a.after = b.after := by
  obtain ⟨ab, aa, ai, ha⟩ := a
  obtain ⟨bb, ba, bi, hb⟩ := b
  constructor
  · intro h
    injection h with h1 h2
    exact ⟨h1, h2⟩
  · rintro ⟨h1, h2⟩
    simp only at h1 h2
    subst h1 h2
    simp [ha, hb]

def advance (c : Cursor) : Option (CodeUnit × Cursor) :=
  match c.after with
  | [] => none
  | u :: rest => some (u, ⟨u :: c.before, rest, c.index + 1, by simp [c.index_eq]⟩)

def retreat (c : Cursor) : Option (CodeUnit × Cursor) :=
  match h : c.before with
  | [] => none
  | u :: rest => some (u, ⟨rest, u :: c.after, c.index - 1, by simp [c.index_eq, h]⟩)

/-- One character to the right; read wide, a surrogate pair is one character. -/
def readForward (wide : Bool) (c : Cursor) : Option (Nat × Cursor) :=
  match c.advance with
  | none => none
  | some (u, next) =>
    if wide && Text.isHigh u then
      match next.advance with
      | some (v, far) => if Text.isLow v then some (Text.joinPair u v, far) else some (u.toNat, next)
      | none => some (u.toNat, next)
    else some (u.toNat, next)

def readBackward (wide : Bool) (c : Cursor) : Option (Nat × Cursor) :=
  match c.retreat with
  | none => none
  | some (v, next) =>
    if wide && Text.isLow v then
      match next.retreat with
      | some (u, far) => if Text.isHigh u then some (Text.joinPair u v, far) else some (v.toNat, next)
      | none => some (v.toNat, next)
    else some (v.toNat, next)

def read (wide : Bool) (dir : Direction) (c : Cursor) : Option (Nat × Cursor) :=
  match dir with
  | .forward => c.readForward wide
  | .backward => c.readBackward wide

def ahead (dir : Direction) (c : Cursor) : Text :=
  match dir with
  | .forward => c.after
  | .backward => c.before

/-- The text between two places of one text, in whichever order. -/
def between (a b : Cursor) : Text :=
  if a.index ≤ b.index then a.after.take (b.index - a.index)
  else b.after.take (a.index - b.index)

end Cursor
end LogTriage.Pattern
