import LogTriage.Json.Reader
import LogTriage.Schema.RawRule

/-! # Request bodies

What the two analysis routes are sent, and how the bytes of a body become a value.
-/

namespace LogTriage.Service

set_option autoImplicit false

open Schema

/-- Rules run over a text. There are no rules but those sent. -/
structure AnalyzeBody where
  content : Text
  source : Text
  rules : List RawRule
  group : Bool
  keep : Nat
  interval : Nat

namespace AnalyzeBody

def check : Check AnalyzeBody := fun path value =>
  (fields path value).bind fun fs =>
    ((((((field "content" (text 0 none) path fs).both
      (field "source" (text 1 (some 255)) path fs)).both
      (field "rules" (nonEmptyList "rule" rawRule) path fs)).both
      (field "group" (withDefault true boolean) path fs)).both
      (field "num_timestamps" (withDefault 3 (natural 1 none)) path fs)).both
      (field "collapse_interval_seconds" (withDefault 60 (natural 0 none)) path fs)).map
        fun (((((content, source), rules), group), keep), interval) =>
          ⟨content, source, rules, group, keep, interval⟩

def toJson (b : AnalyzeBody) : Json :=
  .record [("content", .text b.content), ("source", .text b.source),
    ("rules", .list (b.rules.map (·.toJson))), ("group", .bool b.group),
    ("num_timestamps", .ofNat b.keep), ("collapse_interval_seconds", .ofNat b.interval)]

end AnalyzeBody

/-- A kernel log; the arguments are checked once they are laid over the defaults. -/
structure DmesgBody where
  content : Text
  args : Json.Fields

namespace DmesgBody

def prototypeKey : Text := Text.ofString "__proto__"

def openFields : Check Json.Fields := fun path value =>
  (fields path value).map fun fs => fs.filter fun entry => entry.1 ≠ prototypeKey

def check : Check DmesgBody := fun path value =>
  (fields path value).bind fun fs =>
    ((field "content" (text 0 none) path fs).both
      (field "args" (withDefault [] openFields) path fs)).map fun (content, args) => ⟨content, args⟩

def toJson (b : DmesgBody) : Json := .record [("content", .text b.content), ("args", .object b.args)]

end DmesgBody

/-! ## Hostile bodies -/

def constructorKey : Text := Text.ofString "constructor"

/-- A value for `constructor` that itself has a `prototype`. -/
def hasPrototype : Option Json → Bool
  | some (.object fields) => (Json.Fields.get? fields (Text.ofString "prototype")).isSome
  | _ => false

mutual

def isHostile : Json → Bool
  | .object fields =>
    (Json.Fields.get? fields DmesgBody.prototypeKey).isSome ||
      hasPrototype (Json.Fields.get? fields constructorKey) || anyFieldHostile fields
  | .list items => anyItemHostile items
  | _ => false

def anyItemHostile : List Json → Bool
  | [] => false
  | j :: rest => isHostile j || anyItemHostile rest

def anyFieldHostile : List (Text × Json) → Bool
  | [] => false
  | (_, j) :: rest => isHostile j || anyFieldHostile rest

end

/-- The value of a JSON body. One byte order mark in front of it is passed over. -/
def parseBody? (t : Text) : Option Json :=
  let t := match t with
    | 0xFEFF :: rest => rest
    | _ => t
  (Json.parse? t).filter fun j => !isHostile j

end LogTriage.Service
