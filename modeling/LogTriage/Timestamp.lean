import LogTriage.Number
import LogTriage.Text

/-! # Timestamps

A timestamp is a calendar date and time of day, with an optional fraction and an optional UTC offset.
`parse` gives the instant in milliseconds since 1970 as a binary64 value. Without a fraction that is an
integer and exact; a fraction brings in one rounding for each operation.
-/

namespace LogTriage.Timestamp

set_option autoImplicit false

open Text (charOf isDigit)

inductive Offset where
  | utc
  | signed (negative : Bool) (hours minutes : Nat)
  deriving DecidableEq, Repr

structure Stamp where
  year : Nat
  month : Nat
  day : Nat
  hour : Nat
  minute : Nat
  second : Nat
  fraction : Option Text
  offset : Option Offset
  deriving DecidableEq

/-! ## The written form -/

def digits (n : Nat) (t : Text) : Option (Nat × Text) :=
  let ds := t.take n
  if ds.length = n && ds.all isDigit then some (Text.decimalValue ds, t.drop n) else none

def skip (mark : Char) : Text → Option Text
  | u :: rest => if charOf u == mark then some rest else none
  | [] => none

def readFraction (t : Text) : Option (Option Text × Text) :=
  match t with
  | u :: rest =>
    if charOf u == '.' || charOf u == ',' then
      match rest.takeWhile isDigit with
      | [] => none
      | ds => some (some ds, rest.dropWhile isDigit)
    else some (none, t)
  | [] => some (none, t)

def readHoursMinutes (t : Text) : Option (Nat × Nat × Text) := do
  let (hours, t) ← digits 2 t
  let t ← skip ':' t
  let (minutes, t) ← digits 2 t
  return (hours, minutes, t)

def readOffset (t : Text) : Option (Option Offset) :=
  match t with
  | [] => some none
  | u :: rest =>
    match charOf u with
    | 'Z' => if rest.isEmpty then some (some .utc) else none
    | '+' | '-' => match readHoursMinutes rest with
      | some (hours, minutes, []) => some (some (.signed (charOf u == '-') hours minutes))
      | _ => none
    | _ => none

def read (t : Text) : Option Stamp := do
  let (year, t) ← digits 4 t
  let t ← skip '-' t
  let (month, t) ← digits 2 t
  let t ← skip '-' t
  let (day, t) ← digits 2 t
  let t ← skip 'T' t
  let (hour, minute, t) ← readHoursMinutes t
  let t ← skip ':' t
  let (second, t) ← digits 2 t
  let (fraction, t) ← readFraction t
  let offset ← readOffset t
  return ⟨year, month, day, hour, minute, second, fraction, offset⟩

/-! ## The calendar -/

/-- Years of two digits are those of the twentieth century. -/
def fullYear (year : Nat) : Nat := if year ≤ 99 then 1900 + year else year

def isLeap (year : Nat) : Bool := year % 4 == 0 && (year % 100 != 0 || year % 400 == 0)

def monthLength (year : Nat) : Nat → Nat
  | 2 => if isLeap year then 29 else 28
  | 4 | 6 | 9 | 11 => 30
  | _ => 31

/-- Days of all years before `year`, counted from year 1. -/
def daysBeforeYear (year : Nat) : Nat :=
  let y := year - 1
  365 * y + y / 4 - y / 100 + y / 400

def daysBeforeMonth (year month : Nat) : Nat :=
  (List.range (month - 1)).foldl (fun days m => days + monthLength year (m + 1)) 0

/-- Days from 1970-01-01. -/
def dayNumber (year month day : Nat) : Int :=
  ((daysBeforeYear year + daysBeforeMonth year month + day : Nat) : Int) -
    ((daysBeforeYear 1970 + 1 : Nat) : Int)

def Offset.isValid : Offset → Bool
  | utc => true
  | signed _ hours minutes => hours ≤ 23 && minutes ≤ 59

def Offset.milliseconds : Offset → Int
  | utc => 0
  | signed negative hours minutes =>
    let ms : Int := ((hours * 60 + minutes : Nat) : Int) * 60000
    if negative then -ms else ms

namespace Stamp

def isValid (s : Stamp) : Bool :=
  1 ≤ s.month && s.month ≤ 12 && 1 ≤ s.day && s.day ≤ monthLength (fullYear s.year) s.month &&
    s.hour ≤ 23 && s.minute ≤ 59 && s.second ≤ 59 && (s.offset.map (·.isValid)).getD true

/-- Milliseconds of the whole seconds, as written and before the offset is taken off. -/
def wholeMilliseconds (s : Stamp) : Int :=
  dayNumber (fullYear s.year) s.month s.day * 86400000 +
    ((s.hour * 3600 + s.minute * 60 + s.second : Nat) : Int) * 1000

def offsetMilliseconds (s : Stamp) : Int := (s.offset.map (·.milliseconds)).getD 0

def fractionValue (ds : Text) : Rat :=
  Binary64.nearest (mkRat (Text.decimalValue ds) (Nat.pow 10 ds.length))

def instant (s : Stamp) : Rat :=
  match s.fraction with
  | none => ((s.wholeMilliseconds - s.offsetMilliseconds : Int) : Rat)
  | some ds =>
    let parts := Binary64.nearest (fractionValue ds * 1000)
    let wall := Binary64.nearest ((s.wholeMilliseconds : Rat) + parts)
    Binary64.nearest (wall - (s.offsetMilliseconds : Rat))

end Stamp

/-- The instant that a text names, if it is a timestamp of a real date. -/
def parse (t : Text) : Option Rat :=
  match read (Text.trim t) with
  | some stamp => if stamp.isValid then some stamp.instant else none
  | none => none

/-- Whether a text ends in `Z` or in a signed offset. -/
def hasOffset (t : Text) : Bool :=
  match (Text.trim t).reverse with
  | m₁ :: m₀ :: colon :: h₁ :: h₀ :: sign :: _ =>
    charOf m₁ == 'Z' ||
      (isDigit m₁ && isDigit m₀ && charOf colon == ':' && isDigit h₁ && isDigit h₀ &&
        (charOf sign == '+' || charOf sign == '-'))
  | u :: _ => charOf u == 'Z'
  | [] => false

end LogTriage.Timestamp
