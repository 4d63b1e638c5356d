import LogTriage.Issue
import LogTriage.Number.Shortest

/-! # Checking the shape of input

A check looks at one place of a JSON document and either accepts a value or lists every mismatch, in
the order in which the places are declared. An absent place is a place like any other, so that optional
values and defaults are checks of their own.
-/

namespace LogTriage.Schema

set_option autoImplicit false

/-- What a value can be; `absent`, `nan` and `float` are told apart from the kinds of JSON. -/
inductive Kind where
  | absent
  | null
  | boolean
  | number
  | nan
  | integer
  | float
  | string
  | array
  | object
  deriving DecidableEq

namespace Kind

def name : Kind → String
  | absent => "undefined"
  | null => "null"
  | boolean => "boolean"
  | number => "number"
  | nan => "nan"
  | integer => "integer"
  | float => "float"
  | string => "string"
  | array => "array"
  | object => "object"

def of : Option Json → Kind
  | none => absent
  | some .null => null
  | some (.bool _) => boolean
  | some (.number .nan) => nan
  | some (.number _) => number
  | some (.text _) => string
  | some (.list _) => array
  | some (.object _) => object

end Kind

inductive Segment where
  | field (name : Text)
  | item (index : Nat)
  deriving DecidableEq

namespace Segment

def text : Segment → Text
  | field name => name
  | item index => Text.ofNat index

def toJson : Segment → Json
  | field name => .text name
  | item index => .ofNat index

end Segment

abbrev Path := List Segment

/-- What has a size that can be out of bounds. -/
inductive Measure where
  | characters
  | items
  | value
  deriving DecidableEq

def Measure.kind : Measure → Kind
  | characters => .string
  | items => .array
  | value => .number

inductive Complaint where
  | wrongKind (expected received : Kind)
  | tooSmall (measure : Measure) (least : Nat)
  | tooBig (measure : Measure) (most : Nat)
  | noneGiven (what : String)
  | notAmong (options : List String) (received : Text)
  /-- No text at all where one of several was asked for. -/
  | noOption (options : List String) (received : Kind)
  | unfit (message : String)
  | noAlternative (expected : List Kind) (received : Kind)
  deriving DecidableEq

structure Mismatch where
  path : Path
  complaint : Complaint
  deriving DecidableEq

namespace Complaint

def quotedOptions (options : List String) : String :=
  String.intercalate " | " (options.map fun option => "'" ++ option ++ "'")

def expectation (expected : String) (received : Kind) : String :=
  if received = .absent then "Required"
  else "Expected " ++ expected ++ ", received " ++ received.name

def message : Complaint → Text
  | wrongKind expected received => Text.ofString (expectation expected.name received)
  | tooSmall .characters least =>
    Text.ofString ("String must contain at least " ++ toString least ++ " character(s)")
  | tooSmall .items least =>
    Text.ofString ("Array must contain at least " ++ toString least ++ " element(s)")
  | tooSmall .value least =>
    Text.ofString ("Number must be greater than or equal to " ++ toString least)
  | tooBig .characters most =>
    Text.ofString ("String must contain at most " ++ toString most ++ " character(s)")
  | tooBig .items most =>
    Text.ofString ("Array must contain at most " ++ toString most ++ " element(s)")
  | tooBig .value most =>
    Text.ofString ("Number must be less than or equal to " ++ toString most)
  | noneGiven what => Text.ofString ("At least one " ++ what ++ " is required")
  | notAmong options received =>
    Text.ofString ("Invalid enum value. Expected " ++ quotedOptions options ++ ", received '") ++
      received ++ Text.ofString "'"
  | noOption options received => Text.ofString (expectation (quotedOptions options) received)
  | unfit message => Text.ofString message
  | noAlternative .. => Text.ofString "Invalid input"

def bounds (limit : String) (measure : Measure) (n : Nat) : List (String × Json) :=
  [(limit, .ofNat n), ("type", .ofString measure.kind.name), ("inclusive", .bool true),
    ("exact", .bool false)]

def kinds (expected : String) (received : Kind) : List (String × Json) :=
  [("code", .ofString "invalid_type"), ("expected", .ofString expected),
    ("received", .ofString received.name)]

end Complaint

namespace Mismatch

def message (m : Mismatch) : Text := m.complaint.message

def placed (path : Path) (message : Text) (details : List (String × Json)) : Json :=
  .record (details ++ [("path", .list (path.map (·.toJson))), ("message", .text message)])

def alternative (path : Path) (expected received : Kind) : Json :=
  .record [("name", .ofString "ZodError"), ("issues", .list
    [placed path (Text.ofString (Complaint.expectation expected.name received))
      (Complaint.kinds expected.name received)])]

def toJson (m : Mismatch) : Json :=
  placed m.path m.message <| match m.complaint with
    | .wrongKind expected received => Complaint.kinds expected.name received
    | .noOption options received => Complaint.kinds (Complaint.quotedOptions options) received
    | .tooSmall measure least =>
      ("code", .ofString "too_small") :: Complaint.bounds "minimum" measure least
    | .tooBig measure most =>
      ("code", .ofString "too_big") :: Complaint.bounds "maximum" measure most
    | .noneGiven _ => ("code", .ofString "too_small") :: Complaint.bounds "minimum" .items 1
    | .notAmong options received =>
      [("code", .ofString "invalid_enum_value"), ("options", .list (options.map .ofString)),
        ("received", .text received)]
    | .unfit _ => [("code", .ofString "custom")]
    | .noAlternative expected received =>
      [("code", .ofString "invalid_union"),
        ("unionErrors", .list (expected.map fun kind => alternative m.path kind received))]

def issue (m : Mismatch) : Issue :=
  ⟨(Text.ofString ".").intercalate (m.path.map (·.text)), m.message⟩

end Mismatch

/-- The outcome of a check: a value, or all that is wrong. -/
inductive Checked (α : Type) where
  | valid (value : α)
  | invalid (mismatches : List Mismatch)

namespace Checked

variable {α β : Type}

def mismatches : Checked α → List Mismatch
  | valid _ => []
  | invalid ms => ms

def map (f : α → β) : Checked α → Checked β
  | valid a => valid (f a)
  | invalid ms => invalid ms

/-- Both outcomes, with the mismatches of the first before those of the second. -/
def both (a : Checked α) (b : Checked β) : Checked (α × β) :=
  match a, b with
  | valid x, valid y => valid (x, y)
  | _, _ => invalid (a.mismatches ++ b.mismatches)

def bind (a : Checked α) (f : α → Checked β) : Checked β :=
  match a with
  | valid x => f x
  | invalid ms => invalid ms

def accept (ms : List Mismatch) (value : α) : Checked α :=
  if ms.isEmpty then valid value else invalid ms

def all : List (Checked α) → Checked (List α)
  | [] => valid []
  | a :: rest => (both a (all rest)).map fun p => p.1 :: p.2

def toExcept : Checked α → Except (List Mismatch) α
  | valid a => .ok a
  | invalid ms => .error ms

end Checked

abbrev Check (α : Type) := Path → Option Json → Checked α

variable {α : Type}

def mismatch (path : Path) (complaint : Complaint) : Checked α := .invalid [⟨path, complaint⟩]

def wrongKind (path : Path) (expected : Kind) (value : Option Json) : Checked α :=
  mismatch path (.wrongKind expected (Kind.of value))

/-- A text of `least` units or more, and of `most` at the most where that is given. -/
def text (least : Nat) (most : Option Nat) : Check Text := fun path value =>
  match value with
  | some (.text t) =>
    let small := if t.length < least then [Complaint.tooSmall .characters least] else []
    let big := match most with
      | some n => if n < t.length then [Complaint.tooBig .characters n] else []
      | none => []
    .accept ((small ++ big).map (Mismatch.mk path)) t
  | other => wrongKind path .string other

def boolean : Check Bool := fun path value =>
  match value with
  | some (.bool b) => .valid b
  | other => wrongKind path .boolean other

def integerFaults (least : Nat) (most : Option Nat) (n : Number) : List Complaint :=
  let kind := if n.int?.isSome then [] else [Complaint.wrongKind .integer .float]
  let small := if n.lt (.finite (least : Rat)) then [Complaint.tooSmall .value least] else []
  let big := match most with
    | some m => if (Number.finite (m : Rat)).lt n then [Complaint.tooBig .value m] else []
    | none => []
  kind ++ small ++ big

/-- A natural number of at least `least`, and at most `most` where that is given. -/
def natural (least : Nat) (most : Option Nat) : Check Nat := fun path value =>
  match value with
  | some (.number .nan) => wrongKind path .number value
  | some (.number n) =>
    .accept ((integerFaults least most n).map (Mismatch.mk path)) (n.nat?.getD 0)
  | other => wrongKind path .number other

def optional (check : Check α) : Check (Option α) := fun path value =>
  match value with
  | none => .valid none
  | some j => (check path (some j)).map some

def withDefault (default : α) (check : Check α) : Check α := fun path value =>
  match value with
  | none => .valid default
  | some j => check path (some j)

def itemsFrom (check : Check α) (path : Path) : Nat → List Json → List (Checked α)
  | _, [] => []
  | i, j :: rest => check (path ++ [.item i]) (some j) :: itemsFrom check path (i + 1) rest

def listOf (check : Check α) : Check (List α) := fun path value =>
  match value with
  | some (.list items) => Checked.all (itemsFrom check path 0 items)
  | other => wrongKind path .array other

/-- A list that holds something; `what` names its members. -/
def nonEmptyList (what : String) (check : Check α) : Check (List α) := fun path value =>
  match value with
  | some (.list []) => mismatch path (.noneGiven what)
  | other => listOf check path other

def fields : Check Json.Fields := fun path value =>
  match value with
  | some (.object fields) => .valid fields
  | other => wrongKind path .object other

def field (name : String) (check : Check α) (path : Path) (fields : Json.Fields) : Checked α :=
  check (path ++ [.field (Text.ofString name)]) (fields.get? (Text.ofString name))

end LogTriage.Schema
