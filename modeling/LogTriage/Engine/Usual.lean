import LogTriage.Engine

/-! # The usual engine

Two kinds of patterns that compile are given up on every text. Characters in a row are compared at offsets
that have to fit; only a pattern that is nothing but a text is looked for in another way, unless case is
disregarded or its first characters are too much alike. And every round of a repetition takes room on a
stack of bounded size as long as it may have to be undone. The values of a call share a stack as well. On
particular texts an engine may give up for other reasons, which are not told here.
-/

namespace LogTriage

set_option autoImplicit false

/-- The tree holds everywhere, be it by reading nothing. -/
def Pattern.Tree.holdsAnywhere : Pattern.Tree → Bool
  | .empty => true
  | .char _ | .reference _ | .assertion _ | .look .. => false
  | .seq a b => a.holdsAnywhere && b.holdsAnywhere
  | .alt a b => a.holdsAnywhere || b.holdsAnywhere
  | .group _ body => body.holdsAnywhere
  | .repeated body least _ _ _ => least == 0 || body.holdsAnywhere

namespace Engine

def farthestOffset : Nat := 32767

def stackBytes : Nat := 67108864

/-- Bytes that a round takes at least. -/
def roundBytes (greedy : Bool) : Nat := if greedy then 20 else 16

/-- Values that a call has room for at most. -/
def callRoom : Nat := 125952

/-- A text in ASCII that stands for itself as a source. -/
def isWrittenOut (source : Text) : Bool :=
  source.all fun u => u < 0x80 && !(Text.ofString "^$\\.*+?()[]\x7b|\x7d").contains u

def isMonotonous (source : Text) : Bool := (source.take 8).eraseDups.length ≤ 2

def isTooLarge (p : Pattern) : Bool :=
  farthestOffset < p.source.length && !p.flags.unicode && isWrittenOut p.source &&
    (p.flags.ignoreCase || isMonotonous p.source)

/-- A repetition that is bound to go through more rounds than there is room for. A body that never reads
is not repeated at all. -/
def overruns : Pattern.Tree → Bool
  | .repeated body least _ greedy _ =>
    stackBytes ≤ roundBytes greedy * least && body.holdsAnywhere && !body.isZeroWidth
  | _ => false

def tooLarge (p : Pattern) : Failure :=
  ⟨"SyntaxError", Text.ofString "Invalid regular expression: /" ++ p.source ++ Text.ofString "/" ++
    p.flags.text ++ Text.ofString ": Regular expression too large"⟩

def stackExceeded : Failure := ⟨"RangeError", Text.ofString "Maximum call stack size exceeded"⟩

def usual : Engine where
  search p _ _ :=
    if isTooLarge p then some (tooLarge p)
    else if overruns p.tree then some stackExceeded
    else none
  call n := if callRoom < n then some stackExceeded else none

end Engine
end LogTriage
