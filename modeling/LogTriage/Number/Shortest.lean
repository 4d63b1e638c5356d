import LogTriage.Number
import LogTriage.Text

/-! # Writing numbers

A number is written with the fewest decimal digits that round back to it, and of those with the
digits nearest to it. Values from `1e-6` up to below `1e21` are written out in full.
-/

namespace LogTriage.Number

set_option autoImplicit false

def powerOfTen : Int → Rat
  | .ofNat k => ((Nat.pow 10 k : Nat) : Rat)
  | .negSucc k => mkRat 1 (Nat.pow 10 (k + 1))

def floorLog10 (q : Rat) : Int :=
  let p : Int := (Nat.toDigits 10 q.num.natAbs).length - (Nat.toDigits 10 q.den).length
  if powerOfTen p ≤ q then p else p - 1

/-- The reals that round to one binary64 value; the ends belong to it when its significand is even. -/
structure RoundingInterval where
  lower : Rat
  upper : Rat
  closed : Bool

namespace RoundingInterval

def has (i : RoundingInterval) (x : Rat) : Bool :=
  if i.closed then i.lower ≤ x && x ≤ i.upper else i.lower < x && x < i.upper

/-- Below a power of two the values lie twice as close. -/
def around (q : Rat) : RoundingInterval :=
  let e := Binary64.lastPlace q.num.natAbs q.den
  let m := Binary64.significand q.num.natAbs q.den e
  let half := Binary64.scale 1 (e - 1)
  let below := if m = Nat.pow 2 52 && e > -1074 then Binary64.scale 1 (e - 2) else half
  ⟨q - below, q + half, m % 2 == 0⟩

end RoundingInterval

/-- The better of the two neighbours of `q` among the multiples of `10 ^ place`, if one rounds to
`q`. -/
def onGrid (i : RoundingInterval) (q : Rat) (place : Int) : Option Nat :=
  let unit := powerOfTen place
  let down := (q / unit).floor.toNat
  let low := (down : Rat) * unit
  let high := low + unit
  match i.has low, i.has high with
  | true, false => some down
  | false, true => some (down + 1)
  | false, false => none
  | true, true =>
    if q - low < high - q then some down
    else if high - q < q - low then some (down + 1)
    else some (down + down % 2)

/-- Digits of a positive value as an integer and the place of its last digit. -/
def shortest (q : Rat) : Nat × Int :=
  let i := RoundingInterval.around q
  let top := floorLog10 q
  let places := (List.range 17).map fun (k : Nat) => top - k
  match places.findSome? fun place => (onGrid i q place).map fun n => (n, place) with
  | some found => found
  | none => (0, 0)

def zeros (n : Nat) : List Char := List.replicate n '0'

/-- Digits `ds` with the point after the first `point` places. -/
def layout (ds : List Char) (point : Int) : List Char :=
  let k : Int := ds.length
  if k ≤ point && point ≤ 21 then ds ++ zeros (point - k).toNat
  else if 0 < point && point ≤ 21 then ds.take point.toNat ++ '.' :: ds.drop point.toNat
  else if -6 < point && point ≤ 0 then '0' :: '.' :: zeros (-point).toNat ++ ds
  else
    let e := point - 1
    let mark := 'e' :: (if e < 0 then '-' else '+') :: Nat.toDigits 10 e.natAbs
    match ds with
    | [d] => d :: mark
    | d :: more => d :: '.' :: more ++ mark
    | [] => mark

def positiveText (q : Rat) : List Char :=
  let (n, place) := shortest q
  let all := Nat.toDigits 10 n
  let ds := (all.reverse.dropWhile (· == '0')).reverse
  layout ds (all.length + place)

def chars : Number → List Char
  | .nan => "NaN".toList
  | .infinity negative => if negative then "-Infinity".toList else "Infinity".toList
  | .finite q =>
    if q.num = 0 then ['0'] else if q.num < 0 then '-' :: positiveText (-q) else positiveText q

def text (x : Number) : Text := Text.ofString (String.ofList x.chars)

def bits : Number → Nat
  | .nan => 0x7FF8000000000000
  | .infinity negative => if negative then 0xFFF0000000000000 else 0x7FF0000000000000
  | .finite q =>
    if q.num = 0 then 0
    else
      let e := Binary64.lastPlace q.num.natAbs q.den
      let m := Binary64.significand q.num.natAbs q.den e
      let sign := if q.num < 0 then 0x8000000000000000 else 0
      if m < Nat.pow 2 52 then sign + m
      else sign + (e + 1075).toNat * Nat.pow 2 52 + (m - Nat.pow 2 52)

end LogTriage.Number
