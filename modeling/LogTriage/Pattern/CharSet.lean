import LogTriage.Pattern.Tree
import LogTriage.Unicode.CaseMapping
import LogTriage.Unicode.Category

/-! # Character tests

Which characters a test accepts. Under the `i` flag a character passes a test when some character of
the same case class does; the flag `u` decides what a case class is.
-/

namespace LogTriage.Pattern

set_option autoImplicit false

open Unicode

def isAsciiWord (c : Nat) : Bool :=
  (0x61 ≤ c && c ≤ 0x7A) || (0x41 ≤ c && c ≤ 0x5A) || (0x30 ≤ c && c ≤ 0x39) || c == 0x5F

namespace Flags

def canonical (f : Flags) (c : Nat) : Nat :=
  if f.ignoreCase then (if f.unicode then CaseMapping.fold c else CaseMapping.upper c) else c

def caseClass (f : Flags) (c : Nat) : List Nat :=
  if f.ignoreCase then
    CaseMapping.equivalents (if f.unicode then CaseMapping.foldTable else CaseMapping.upperTable) c
  else [c]

/-- Under `i` and `u` together the long s and the kelvin sign are word characters, being case forms of
ASCII letters. -/
def isWord (f : Flags) (c : Nat) : Bool :=
  isAsciiWord c || (f.ignoreCase && f.unicode && (c == 0x17F || c == 0x212A))

end Flags

def Shorthand.has (f : Flags) (kind : Shorthand) (c : Nat) : Bool :=
  match kind with
  | .digit => 0x30 ≤ c && c ≤ 0x39
  | .space => Text.isBlank c
  | .word => f.isWord c

def Property.has (kind : Property) (c : Nat) : Bool :=
  match kind with
  | .any => true
  | .ascii => c < 0x80
  | .letter => Category.letters.any (·.has c)
  | .uppercase => Category.uppercase.any (·.has c)
  | .lowercase => Category.lowercase.any (·.has c)
  | .decimalDigit => Category.decimalDigits.any (·.has c)

def ClassItem.has (f : Flags) (item : ClassItem) (c : Nat) : Bool :=
  match item with
  | .span low high => low ≤ c && c ≤ high
  | .shorthand kind negated => kind.has f c != negated
  | .property kind negated => kind.has c != negated

def CharTest.accepts (f : Flags) (test : CharTest) (c : Nat) : Bool :=
  match test with
  | .literal d => f.canonical c == f.canonical d
  | .anyChar => f.dotAll || !Text.isLineEnd c
  | .oneOf negated items =>
    let forms := f.caseClass c
    (items.any fun item => forms.any fun d => item.has f d) != negated

theorem CharTest.accepts_literal_iff {f : Flags} (h : f.ignoreCase = false) (c d : Nat) :
    (CharTest.literal d).accepts f c = true ↔ c = d := by
  simp [accepts, Flags.canonical, h]

theorem CharTest.accepts_oneOf_iff {f : Flags} (h : f.ignoreCase = false) (negated : Bool)
    (items : List ClassItem) (c : Nat) :
    (CharTest.oneOf negated items).accepts f c = ((items.any fun item => item.has f c) != negated) := by
  simp [accepts, Flags.caseClass, h]

end LogTriage.Pattern
