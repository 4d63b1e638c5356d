import LogTriage.Number.Shortest

/-! # Bounding lists of timestamps

A list that outgrows twice a limit keeps that many entries at either end, in recorded order.
-/

namespace LogTriage.Timestamp

set_option autoImplicit false

def prune (keep : Nat) (timestamps : List Text) : List Text :=
  if timestamps.length ≤ 2 * keep then timestamps
  else timestamps.take keep ++ timestamps.drop (timestamps.length - keep)

structure BadLimit where
  given : Number

def BadLimit.message (e : BadLimit) : Text :=
  Text.ofString "keep must be a positive integer, got " ++ e.given.text

def pruneTo (keep : Number) (timestamps : List Text) : Except BadLimit (List Text) :=
  match keep.positive? with
  | some n => .ok (prune n timestamps)
  | none => .error ⟨keep⟩

end LogTriage.Timestamp
