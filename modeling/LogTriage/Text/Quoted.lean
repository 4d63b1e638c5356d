import LogTriage.Text

/-! # Quoted text

A text written between double quotes. Quotes, backslashes, control units and lone surrogates are
escaped, so the written form is always well-formed and reads back unit by unit.
-/

namespace LogTriage.Text.Quoted

set_option autoImplicit false

def quote : CodeUnit := 0x22

def backslash : CodeUnit := 0x5C

/-- Digits beyond nine are lower-case letters. -/
def hexDigit (n : Nat) : CodeUnit := if n < 10 then (0x30 + n).toUInt16 else (0x57 + n).toUInt16

def hexEscape (u : CodeUnit) : Text :=
  let n := u.toNat
  [backslash, 0x75, hexDigit (n / 0x1000), hexDigit (n / 0x100 % 0x10), hexDigit (n / 0x10 % 0x10),
    hexDigit (n % 0x10)]

def encodeUnit (u : CodeUnit) : Text :=
  if u == quote || u == backslash then [backslash, u]
  else if u == 0x08 then [backslash, 0x62]
  else if u == 0x09 then [backslash, 0x74]
  else if u == 0x0A then [backslash, 0x6E]
  else if u == 0x0C then [backslash, 0x66]
  else if u == 0x0D then [backslash, 0x72]
  else if u < 0x20 || isHigh u || isLow u then hexEscape u
  else [u]

/-- The two halves of a pair stand as they are; a half alone is escaped. -/
def encodeUnits : Text → Text
  | [] => []
  | [u] => encodeUnit u
  | u :: v :: rest =>
    if isHigh u && isLow v then u :: v :: encodeUnits rest
    else encodeUnit u ++ encodeUnits (v :: rest)

def encode (t : Text) : Text := quote :: encodeUnits t ++ [quote]

end LogTriage.Text.Quoted
