/-! # Text as UTF-16 code units

Lengths, offsets and cuts count UTF-16 units, and a cut may leave half of a surrogate pair behind.
So a text is the list of its units, and `String` appears only where a literal is written down or an
answer is shown.
-/

namespace LogTriage

set_option autoImplicit false

abbrev CodeUnit := UInt16

abbrev Text := List CodeUnit

namespace Text

/-- Half surrogates have no character of their own and read as NUL, to which no grammar here gives a
meaning. -/
def charOf (u : CodeUnit) : Char := Char.ofNat u.toNat

def isHigh (u : CodeUnit) : Bool := 0xD800 ≤ u && u < 0xDC00

def isLow (u : CodeUnit) : Bool := 0xDC00 ≤ u && u < 0xE000

def joinPair (high low : CodeUnit) : Nat :=
  0x10000 + (high.toNat - 0xD800) * 0x400 + (low.toNat - 0xDC00)

def ofCodePoint (c : Nat) : Text :=
  if c < 0x10000 then [c.toUInt16]
  else [(0xD800 + (c - 0x10000) / 0x400).toUInt16, (0xDC00 + (c - 0x10000) % 0x400).toUInt16]

def ofString (s : String) : Text := s.toList.flatMap fun c => ofCodePoint c.toNat

/-- Surrogate pairs read as one code point, every other unit as itself. -/
def codePoints : Text → List Nat
  | [] => []
  | [u] => [u.toNat]
  | u :: v :: rest =>
    if isHigh u && isLow v then joinPair u v :: codePoints rest
    else u.toNat :: codePoints (v :: rest)

def newline : CodeUnit := 0x0A

def isLineEnd (c : Nat) : Bool := c == 0x0A || c == 0x0D || c == 0x2028 || c == 0x2029

/-- Spaces of every width, tabs, line ends and the byte order mark. -/
def isBlank (c : Nat) : Bool :=
  (0x09 ≤ c && c ≤ 0x0D) || c == 0x20 || c == 0xA0 || c == 0x1680 || (0x2000 ≤ c && c ≤ 0x200A) ||
    isLineEnd c || c == 0x202F || c == 0x205F || c == 0x3000 || c == 0xFEFF

theorem isBlank_of_isLineEnd {c : Nat} (h : isLineEnd c = true) : isBlank c = true := by
  simp [isBlank, h]

def trimStart (t : Text) : Text := t.dropWhile fun u => isBlank u.toNat

def trim (t : Text) : Text := (trimStart (trimStart t).reverse).reverse

/-- The lines of a text, without their newlines. There is always one. -/
def lines : Text → List Text
  | [] => [[]]
  | u :: rest =>
    if u = newline then [] :: lines rest
    else match lines rest with
      | [] => [[u]]
      | line :: more => (u :: line) :: more

def ofLines (ls : List Text) : Text := [newline].intercalate ls

theorem lines_newline_cons (t : Text) : lines (newline :: t) = [] :: lines t := by simp [lines]

theorem lines_cons {u : CodeUnit} {t line : Text} {more : List Text} (hu : u ≠ newline)
    (h : lines t = line :: more) : lines (u :: t) = (u :: line) :: more := by
  simp [lines, hu, h]

theorem lines_ne_nil (t : Text) : lines t ≠ [] := by
  cases t with
  | nil => simp [lines]
  | cons u rest =>
    by_cases hu : u = newline
    · simp [lines, hu]
    · cases h : lines rest with
      | nil => simp [lines, hu, h]
      | cons line more => simp [lines_cons hu h]

theorem ofLines_lines (t : Text) : ofLines (lines t) = t := by
  induction t with
  | nil => rfl
  | cons u rest ih =>
    cases h : lines rest with
    | nil => exact absurd h (lines_ne_nil rest)
    | cons line more =>
      rw [h] at ih
      by_cases hu : u = newline
      · subst hu
        rw [lines_newline_cons, h]
        simpa [ofLines, List.intercalate] using ih
      · rw [lines_cons hu h]
        cases more <;> simpa [ofLines, List.intercalate] using ih

/-- The line that holds position `p`; a newline belongs to the line it ends. -/
def lineAt (t : Text) (p : Nat) : Text :=
  ((t.take p).reverse.takeWhile (· != newline)).reverse ++ (t.drop p).takeWhile (· != newline)

def dropToken (token t : Text) : Option Text :=
  if token.isPrefixOf t then some (t.drop token.length) else none

def isDigit (u : CodeUnit) : Bool := 0x30 ≤ u && u ≤ 0x39

def digitValue (u : CodeUnit) : Nat := u.toNat - 0x30

def decimalValue (ds : Text) : Nat := ds.foldl (fun n u => 10 * n + digitValue u) 0

def hexValue? (u : CodeUnit) : Option Nat :=
  if isDigit u then some (digitValue u)
  else if 0x41 ≤ u && u ≤ 0x46 then some (u.toNat - 0x41 + 10)
  else if 0x61 ≤ u && u ≤ 0x66 then some (u.toNat - 0x61 + 10)
  else none

def ofNat (n : Nat) : Text := ofString (toString n)

end Text
end LogTriage
