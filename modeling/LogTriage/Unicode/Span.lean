/-! # Spans of code points

A table of characters is a list of spans: first and last member, and the distance between members
(one for a block, two where upper and lower case alternate).
-/

namespace LogTriage.Unicode

set_option autoImplicit false

structure Span where
  first : Nat
  last : Nat
  step : Nat
  deriving DecidableEq, Repr

namespace Span

def has (s : Span) (c : Nat) : Bool :=
  s.first ≤ c && c ≤ s.last && (c - s.first) % s.step == 0

theorem has_iff (s : Span) (c : Nat) :
    s.has c = true ↔ s.first ≤ c ∧ c ≤ s.last ∧ (c - s.first) % s.step = 0 := by
  simp [has, and_assoc]

end Span
end LogTriage.Unicode
