import LogTriage.Json

/-! # Equality of JSON values -/

namespace LogTriage.Json

set_option autoImplicit false

mutual

def same : Json → Json → Bool
  | .null, .null => true
  | .bool b, .bool c => b == c
  | .number x, .number y => x == y
  | .text t, .text u => t == u
  | .list items, .list others => sameItems items others
  | .object fields, .object others => sameFields fields others
  | _, _ => false

def sameItems : List Json → List Json → Bool
  | [], [] => true
  | j :: rest, k :: others => same j k && sameItems rest others
  | _, _ => false

def sameFields : List (Text × Json) → List (Text × Json) → Bool
  | [], [] => true
  | (key, j) :: rest, (other, k) :: others => key == other && same j k && sameFields rest others
  | _, _ => false

end

mutual

theorem same_iff : (j k : Json) → (same j k = true ↔ j = k)
  | .null, k => by cases k <;> simp [same]
  | .bool b, k => by cases k <;> simp [same]
  | .number x, k => by cases k <;> simp [same]
  | .text t, k => by cases k <;> simp [same]
  | .list items, k => by
    cases k with
    | list others => simp [same, sameItems_iff items others]
    | _ => simp [same]
  | .object fields, k => by
    cases k with
    | object others => simp [same, sameFields_iff fields others]
    | _ => simp [same]

theorem sameItems_iff : (items others : List Json) → (sameItems items others = true ↔ items = others)
  | [], others => by cases others <;> simp [sameItems]
  | j :: rest, others => by
    cases others with
    | nil => simp [sameItems]
    | cons k more => simp [sameItems, same_iff j k, sameItems_iff rest more]

theorem sameFields_iff :
    (fields others : List (Text × Json)) → (sameFields fields others = true ↔ fields = others)
  | [], others => by cases others <;> simp [sameFields]
  | (key, j) :: rest, others => by
    cases others with
    | nil => simp [sameFields]
    | cons entry more => simp [sameFields, same_iff j entry.2, sameFields_iff rest more, Prod.ext_iff]

end

instance : DecidableEq Json := fun j k => decidable_of_iff _ (same_iff j k)

end LogTriage.Json
