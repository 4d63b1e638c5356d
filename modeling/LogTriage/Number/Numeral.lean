import LogTriage.Number
import LogTriage.Text

/-! # Numerals

Reading a written number. A decimal numeral denotes an exact rational, which is then rounded once, so
the answer is the binary64 value nearest to what was written. `setting` reads the value of an
environment variable, where blanks around the numeral, an empty value and other bases are allowed.
-/

namespace LogTriage.Number

set_option autoImplicit false

def decimalRat (mantissa : Nat) : Int → Rat
  | .ofNat k => ((mantissa * Nat.pow 10 k : Nat) : Rat)
  | .negSucc k => mkRat mantissa (Nat.pow 10 (k + 1))

/-- A decimal numeral, rounded. A numeral of more than 400 places on either side of the point is
beyond the range of binary64, and its power of ten is never written out. -/
def ofDecimal (negative : Bool) (mantissa : Nat) (exponent : Int) : Number :=
  if mantissa = 0 then .finite 0
  else
    let places : Int := (Nat.toDigits 10 mantissa).length + exponent
    if 400 < places then .infinity negative
    else if places < -400 then .finite 0
    else
      let q := decimalRat mantissa exponent
      ofRat (if negative then -q else q)

namespace Numeral

open Text (isDigit decimalValue charOf)

/-- Whole part, fraction and exponent of a numeral without a sign. -/
structure Parts where
  whole : Text
  fraction : Text
  exponent : Int

def Parts.number (p : Parts) (negative : Bool) : Number :=
  ofDecimal negative (decimalValue (p.whole ++ p.fraction)) (p.exponent - p.fraction.length)

/-- The digits after an exponent mark, with their sign. -/
def exponentDigits (t : Text) : Option (Int × Text) :=
  let (negative, rest) := match t with
    | u :: rest => if charOf u == '-' then (true, rest)
      else if charOf u == '+' then (false, rest) else (false, t)
    | [] => (false, t)
  match rest.takeWhile isDigit with
  | [] => none
  | digits =>
    let n : Int := decimalValue digits
    some (if negative then -n else n, rest.dropWhile isDigit)

/-- An exponent, if a mark stands here; a mark without digits is refused. -/
def exponent (t : Text) : Option (Int × Text) :=
  match t with
  | u :: rest => if charOf u == 'e' || charOf u == 'E' then exponentDigits rest else some (0, t)
  | [] => some (0, t)

/-- A point and the digits after it, of which there may be none. -/
def fraction (t : Text) : Text × Text :=
  match t with
  | u :: rest =>
    if charOf u == '.' then (rest.takeWhile isDigit, rest.dropWhile isDigit) else ([], t)
  | [] => ([], t)

/-- A decimal numeral that fills the whole text and has a digit before or after its point. -/
def decimal (t : Text) : Option Parts :=
  let whole := t.takeWhile isDigit
  let (part, rest) := fraction (t.dropWhile isDigit)
  if whole.isEmpty && part.isEmpty then none
  else match exponent rest with
    | some (e, []) => some ⟨whole, part, e⟩
    | _ => none

/-- Digits of a base up to sixteen. -/
def inBase (base : Nat) (t : Text) : Option Nat :=
  if t.isEmpty then none
  else t.foldl (fun n u => match n, Text.hexValue? u with
    | some n, some d => if d < base then some (base * n + d) else none
    | _, _ => none) (some 0)

def unsigned (negative : Bool) (t : Text) : Number :=
  if t = Text.ofString "Infinity" then .infinity negative
  else match decimal t with
    | some parts => parts.number negative
    | none => .nan

/-- The base that a marker such as `0x` announces. -/
def baseOf (mark : Char) : Option Nat :=
  match mark with
  | 'x' | 'X' => some 16
  | 'o' | 'O' => some 8
  | 'b' | 'B' => some 2
  | _ => none

def setting (t : Text) : Number :=
  match Text.trim t with
  | [] => .finite 0
  | u :: rest =>
    match charOf u with
    | '-' => unsigned true rest
    | '+' => unsigned false rest
    | '0' =>
      match rest with
      | mark :: digits =>
        match baseOf (charOf mark) with
        | some base => match inBase base digits with
          | some n => ofNat n
          | none => .nan
        | none => unsigned false (u :: rest)
      | [] => .finite 0
    | _ => unsigned false (u :: rest)

end Numeral
end LogTriage.Number
