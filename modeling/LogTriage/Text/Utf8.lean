import LogTriage.Text

/-! # Text as UTF-8

Bytes that form no character are replaced by U+FFFD, one for each longest stretch that could still
have become a character. A byte order mark is a character like any other.
-/

namespace LogTriage.Text.Utf8

set_option autoImplicit false

/-- Between characters, or inside one: how many bytes are owed, the range of the next, and the bits
read so far. -/
inductive State where
  | ground
  | owed (count low high bits : Nat)
  deriving DecidableEq

def replacement : Nat := 0xFFFD

/-- The first byte of a character: what it completes, and where the reader then stands. -/
def lead (b : Nat) : List Nat × State :=
  if b < 0x80 then ([b], .ground)
  else if 0xC2 ≤ b && b ≤ 0xDF then ([], .owed 1 0x80 0xBF (b - 0xC0))
  else if b == 0xE0 then ([], .owed 2 0xA0 0xBF 0)
  else if b == 0xED then ([], .owed 2 0x80 0x9F 0xD)
  else if 0xE1 ≤ b && b ≤ 0xEF then ([], .owed 2 0x80 0xBF (b - 0xE0))
  else if b == 0xF0 then ([], .owed 3 0x90 0xBF 0)
  else if 0xF1 ≤ b && b ≤ 0xF3 then ([], .owed 3 0x80 0xBF (b - 0xF0))
  else if b == 0xF4 then ([], .owed 3 0x80 0x8F 4)
  else ([replacement], .ground)

def step : State → Nat → List Nat × State
  | .ground, b => lead b
  | .owed count low high bits, b =>
    if low ≤ b && b ≤ high then
      let bits := bits * 0x40 + b % 0x40
      if count ≤ 1 then ([bits], .ground) else ([], .owed (count - 1) 0x80 0xBF bits)
    else
      let (out, next) := lead b
      (replacement :: out, next)

def codePointsFrom : State → List UInt8 → List Nat
  | .ground, [] => []
  | .owed .., [] => [replacement]
  | s, b :: rest => (step s b.toNat).1 ++ codePointsFrom (step s b.toNat).2 rest

def decode (bytes : List UInt8) : Text := (codePointsFrom .ground bytes).flatMap ofCodePoint

/-! ## The length when written -/

/-- Bytes of a character; an unpaired surrogate takes those of its replacement. -/
def width (c : Nat) : Nat :=
  if c < 0x80 then 1 else if c < 0x800 then 2 else if c < 0x10000 then 3 else 4

def byteCount (t : Text) : Nat := (codePoints t).foldl (fun n c => n + width c) 0

end LogTriage.Text.Utf8
