import LogTriage.Dmesg.Args
import LogTriage.Json.Reader
import LogTriage.Text.Utf8

/-! # Configuration

The defaults of kernel log analyses come from a JSON file, the rest from the environment. A file that
does not exist stands for the built-in defaults; one that exists must be in order in every respect,
its custom rules included.
-/

namespace LogTriage

set_option autoImplicit false

namespace Config

inductive Error where
  | unreadableFile
  | invalidFile (mismatches : List Schema.Mismatch)
  | invalidPatterns (e : RuleError)
  | invalidPort (mismatches : List Schema.Mismatch)

namespace Error

/-- Issues with custom rules are placed below their list in the file. -/
def patternsPath : Text := Text.ofString "dmesg.custom_error_patterns"

/-- `path` names the file, and `reason` says why it is no JSON. -/
def refusal (path reason : Text) : Error → Refusal
  | unreadableFile => ⟨Text.ofString "Cannot read analyzer config " ++ path, [⟨[], reason⟩]⟩
  | invalidFile ms => ⟨Text.ofString "Invalid analyzer config " ++ path, ms.map (·.issue)⟩
  | invalidPatterns e =>
    ⟨Text.ofString "Invalid analyzer config " ++ path, e.issues.map (·.within patternsPath)⟩
  | invalidPort ms => ⟨Text.ofString "Invalid PORT", ms.map (·.issue)⟩

end Error

open Schema

/-- The arguments in the `dmesg` section of a file; the section may be left out. -/
def fileSchema : Check (Option Dmesg.Args) := fun path value =>
  (fields path value).bind (field "dmesg" (optional Dmesg.Args.check) path)

/-- Custom rules have to compile, although they are kept raw. -/
def checkPatterns (args : Dmesg.Args) : Except Error Dmesg.Args :=
  match RawRule.compose args.patterns [] with
  | .ok _ => .ok args
  | .error e => .error (.invalidPatterns e)

def ofJson (json : Json) : Except Error Dmesg.Args :=
  match fileSchema [] (some json) with
  | .invalid ms => .error (.invalidFile ms)
  | .valid args => checkPatterns (args.getD .default)

/-- The defaults that a file gives, by its bytes if it exists. -/
def loadFile (file : Option (List UInt8)) : Except Error Dmesg.Args :=
  match file with
  | none => .ok .default
  | some bytes =>
    match Json.parse? (Text.Utf8.decode bytes) with
    | none => .error .unreadableFile
    | some json => ofJson json

end Config

abbrev Environment := List (Text × Text)

structure Config where
  host : Text
  port : Nat
  logLevel : Text
  dmesg : Dmesg.Args

namespace Config

def setting? (env : Environment) (name : String) : Option Text := env.lookup (Text.ofString name)

def readPort (env : Environment) : Except Error Nat :=
  match setting? env "PORT" with
  | none => .ok 3000
  | some value =>
    match Schema.natural 0 (some 65535) [] (some (.number (Number.Numeral.setting value))) with
    | .valid n => .ok n
    | .invalid ms => .error (.invalidPort ms)

/-- The port is looked at before the file. -/
def load (env : Environment) (file : Option (List UInt8)) : Except Error Config :=
  match readPort env with
  | .error e => .error e
  | .ok port =>
    match loadFile file with
    | .error e => .error e
    | .ok dmesg =>
      .ok ⟨(setting? env "HOST").getD (Text.ofString "0.0.0.0"), port,
        (setting? env "LOG_LEVEL").getD (Text.ofString "info"), dmesg⟩

end Config
end LogTriage
