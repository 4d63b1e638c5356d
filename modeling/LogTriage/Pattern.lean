import LogTriage.Pattern.Matcher
import LogTriage.Pattern.Reader

/-! # Patterns

A pattern is compiled once from its source and flags and then only asked questions. Flags are checked
before the source, and the source is shown the way a pattern literal would be written.
-/

namespace LogTriage

set_option autoImplicit false

structure Pattern where
  source : Text
  flags : Pattern.Flags
  tree : Pattern.Tree
  groupCount : Nat
  deriving DecidableEq

namespace Pattern

inductive Error where
  | badFlags (flags : Text)
  | malformed (source : Text) (flags : Flags) (fault : Fault)
  deriving DecidableEq

def Error.message : Error → Text
  | badFlags flags =>
    Text.ofString "Invalid flags supplied to RegExp constructor '" ++ flags ++ Text.ofString "'"
  | malformed source flags fault =>
    Text.ofString "Invalid regular expression: /" ++ source ++ Text.ofString "/" ++ flags.text ++
      Text.ofString ": " ++ Text.ofString fault.reason

def ofSource (source : Text) (flags : Flags) : Except Error Pattern :=
  match Reader.read flags.unicode source with
  | .ok (tree, groupCount) => .ok ⟨source, flags, tree, groupCount⟩
  | .error fault => .error (.malformed source flags fault)

def compile (source flags : Text) : Except Error Pattern :=
  match Flags.ofText flags with
  | none => .error (.badFlags flags)
  | some flags => ofSource source flags

/-- A pattern written in this library. Its source is always well-formed; should it not be, the pattern
would match nothing but the empty text. -/
def literal (source : String) (flags : Flags) : Pattern :=
  match ofSource (Text.ofString source) flags with
  | .ok pattern => pattern
  | .error _ => ⟨Text.ofString source, flags, .empty, 0⟩

/-! ## The written source -/

/-- The escape of a line end, without its backslash. -/
def lineEndName (u : CodeUnit) : Option Text :=
  if u == 0x0A then some (Text.ofString "n")
  else if u == 0x0D then some (Text.ofString "r")
  else if u == 0x2028 then some (Text.ofString "u2028")
  else if u == 0x2029 then some (Text.ofString "u2029")
  else none

/-- Slashes outside classes get a backslash, and line ends become escapes, which take over a backslash
that is already there. -/
def writtenFrom : Bool → Bool → Text → Text
  | _, _, [] => []
  | inClass, true, u :: rest => (lineEndName u).getD [u] ++ writtenFrom inClass false rest
  | inClass, false, u :: rest =>
    match Text.charOf u, lineEndName u with
    | _, some name => 0x5C :: name ++ writtenFrom inClass false rest
    | '\\', _ => u :: writtenFrom inClass true rest
    | '[', _ => u :: writtenFrom true false rest
    | ']', _ => u :: writtenFrom false false rest
    | '/', _ => if inClass then u :: writtenFrom inClass false rest
      else 0x5C :: u :: writtenFrom inClass false rest
    | _, _ => u :: writtenFrom inClass false rest

def written (p : Pattern) : Text :=
  if p.source.isEmpty then Text.ofString "(?:)" else writtenFrom false false p.source

end Pattern
end LogTriage
