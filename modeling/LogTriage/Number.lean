/-! # Numbers

The numbers of documents and settings are binary64 values. A finite one is kept as the rational that
it denotes, so that comparing and adding are those of `Rat`, and rounding is one function. The sign
of a zero is not kept: nothing here can tell the two zeros apart.
-/

namespace LogTriage

set_option autoImplicit false

inductive Number where
  | nan
  | infinity (negative : Bool)
  | finite (value : Rat)
  deriving DecidableEq

namespace Binary64

/-- `num / den` to the nearest natural number, a half to the even one. -/
def divideToNearest (num den : Nat) : Nat :=
  let q := num / den
  let r := num % den
  if 2 * r < den then q else if den < 2 * r then q + 1 else q + q % 2

def scale (m : Nat) (e : Int) : Rat :=
  match e with
  | .ofNat k => ((m * Nat.pow 2 k : Nat) : Rat)
  | .negSucc k => mkRat m (Nat.pow 2 (k + 1))

/-- The largest `e` with `2 ^ e ≤ num / den`, for a positive fraction. -/
def floorLog2 (num den : Nat) : Int :=
  let e : Int := (Nat.log2 num : Int) - (Nat.log2 den : Int)
  let fits : Bool := match e with
    | .ofNat k => den * Nat.pow 2 k ≤ num
    | .negSucc k => den ≤ num * Nat.pow 2 (k + 1)
  if fits then e else e - 1

/-- The exponent of the last place: 53 significant bits, and never below `-1074`. -/
def lastPlace (num den : Nat) : Int := max (floorLog2 num den - 52) (-1074)

/-- The significand of a positive fraction in units of `2 ^ e`. -/
def significand (num den : Nat) (e : Int) : Nat :=
  match e with
  | .ofNat k => divideToNearest num (den * Nat.pow 2 k)
  | .negSucc k => divideToNearest (num * Nat.pow 2 (k + 1)) den

/-- The nearest binary64 value, a tie to the even significand; the exponent is not bounded above. -/
def nearest (q : Rat) : Rat :=
  if q.num = 0 then 0
  else
    let e := lastPlace q.num.natAbs q.den
    let magnitude := scale (significand q.num.natAbs q.den e) e
    if q.num < 0 then -magnitude else magnitude

/-- The least value beyond the finite range. -/
def overflow : Rat := ((Nat.pow 2 1024 : Nat) : Rat)

end Binary64

namespace Number

def ofRat (q : Rat) : Number :=
  let r := Binary64.nearest q
  if Binary64.overflow ≤ r then .infinity false
  else if r ≤ -Binary64.overflow then .infinity true
  else .finite r

def ofNat (n : Nat) : Number := ofRat (n : Rat)

def isFinite : Number → Bool
  | .finite _ => true
  | _ => false

def int? : Number → Option Int
  | .finite q => if q.den = 1 then some q.num else none
  | _ => none

def nat? (x : Number) : Option Nat :=
  match x.int? with
  | some (.ofNat n) => some n
  | _ => none

/-- Nothing is below or above `nan`. -/
def lt : Number → Number → Bool
  | .nan, _ => false
  | _, .nan => false
  | .infinity negative, .infinity other => negative && !other
  | .infinity negative, .finite _ => negative
  | .finite _, .infinity negative => !negative
  | .finite p, .finite q => p < q

/-- A number times an exact positive factor, rounded. -/
def scaleBy (factor : Rat) : Number → Number
  | .finite q => ofRat (q * factor)
  | other => other

def positive? (x : Number) : Option Nat := x.nat?.filter (1 ≤ ·)

def nonNegative? : Number → Option Rat
  | .finite q => if 0 ≤ q then some q else none
  | _ => none

end Number
end LogTriage
