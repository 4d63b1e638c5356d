import LogTriage.Text

/-! # Pattern trees

What a pattern says, once read. Groups are numbered from zero in the order in which they open, and a
repetition knows which groups open inside it, because each round starts with those unset.
-/

namespace LogTriage.Pattern

set_option autoImplicit false

structure Flags where
  hasIndices : Bool := false
  global : Bool := false
  ignoreCase : Bool := false
  multiline : Bool := false
  dotAll : Bool := false
  unicode : Bool := false
  sticky : Bool := false
  deriving DecidableEq, Repr

namespace Flags

def letters (f : Flags) : List (Char × Bool) :=
  [('d', f.hasIndices), ('g', f.global), ('i', f.ignoreCase), ('m', f.multiline), ('s', f.dotAll),
    ('u', f.unicode), ('y', f.sticky)]

def text (f : Flags) : Text :=
  (f.letters.filter (·.2)).flatMap fun entry => Text.ofCodePoint entry.1.toNat

/-- One letter more; a letter that is unknown or already there is refused. -/
def add (f : Flags) (letter : Char) : Option Flags :=
  match letter with
  | 'd' => if f.hasIndices then none else some { f with hasIndices := true }
  | 'g' => if f.global then none else some { f with global := true }
  | 'i' => if f.ignoreCase then none else some { f with ignoreCase := true }
  | 'm' => if f.multiline then none else some { f with multiline := true }
  | 's' => if f.dotAll then none else some { f with dotAll := true }
  | 'u' => if f.unicode then none else some { f with unicode := true }
  | 'y' => if f.sticky then none else some { f with sticky := true }
  | _ => none

def ofText (t : Text) : Option Flags :=
  t.foldl (fun f u => f.bind fun f => f.add (Text.charOf u)) (some {})

end Flags

inductive Shorthand where
  | digit
  | space
  | word
  deriving DecidableEq, Repr

inductive Property where
  | any
  | ascii
  | letter
  | uppercase
  | lowercase
  | decimalDigit
  deriving DecidableEq, Repr

inductive ClassItem where
  | span (low high : Nat)
  | shorthand (kind : Shorthand) (negated : Bool)
  | property (kind : Property) (negated : Bool)
  deriving DecidableEq, Repr

inductive CharTest where
  | literal (c : Nat)
  | anyChar
  | oneOf (negated : Bool) (items : List ClassItem)
  deriving DecidableEq, Repr

inductive Assertion where
  | start
  | stop
  | boundary (negated : Bool)
  deriving DecidableEq, Repr

structure GroupSpan where
  first : Nat
  count : Nat
  deriving DecidableEq, Repr

/-- `most` is absent where a repetition has no upper bound. -/
inductive Tree where
  | empty
  | char (test : CharTest)
  | seq (first second : Tree)
  | alt (first second : Tree)
  | group (index : Nat) (body : Tree)
  | reference (index : Nat)
  | assertion (a : Assertion)
  | look (ahead negated : Bool) (body : Tree)
  | repeated (body : Tree) (least : Nat) (most : Option Nat) (greedy : Bool) (inner : GroupSpan)
  deriving DecidableEq, Repr

namespace Tree

def ofPieces : List Tree → Tree
  | [] => .empty
  | [piece] => piece
  | piece :: more => .seq piece (ofPieces more)

def ofAlternatives : List Tree → Tree
  | [] => .empty
  | [choice] => choice
  | choice :: more => .alt choice (ofAlternatives more)

/-- No character is ever read by the piece. -/
def isZeroWidth : Tree → Bool
  | .empty | .assertion _ | .look .. => true
  | .char _ | .reference _ => false
  | .seq a b | .alt a b => a.isZeroWidth && b.isZeroWidth
  | .group _ body => body.isZeroWidth
  | .repeated body _ most _ _ => body.isZeroWidth || most == some 0

end Tree
end LogTriage.Pattern
