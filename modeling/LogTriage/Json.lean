import LogTriage.Number
import LogTriage.Text

/-! # JSON values

Configuration files, request bodies and answers are JSON. An object is its list of fields; `put` keeps
one field to a key.
-/

namespace LogTriage

set_option autoImplicit false

inductive Json where
  | null
  | bool (value : Bool)
  | number (value : Number)
  | text (value : Text)
  | list (items : List Json)
  | object (fields : List (Text × Json))

namespace Json

abbrev Fields := List (Text × Json)

namespace Fields

def get? (fields : Fields) (key : Text) : Option Json := fields.lookup key

/-- The later of two fields of one key counts. -/
def put : Fields → Text → Json → Fields
  | [], key, value => [(key, value)]
  | (k, v) :: rest, key, value =>
    if k = key then (key, value) :: rest else (k, v) :: put rest key value

def overlay (base given : Fields) : Fields :=
  given.foldl (fun fields entry => put fields entry.1 entry.2) base

@[simp] theorem get?_nil (key : Text) : get? [] key = none := rfl

theorem get?_cons (k key : Text) (v : Json) (rest : Fields) :
    get? ((k, v) :: rest) key = if key = k then some v else get? rest key := by
  by_cases h : key = k
  · subst h
    simp [get?]
  · have : (key == k) = false := by simpa using h
    simp [get?, List.lookup_cons, h, this]

theorem get?_put (fields : Fields) (key other : Text) (value : Json) :
    get? (put fields key value) other = if other = key then some value else get? fields other := by
  induction fields with
  | nil => simp [put, get?_cons]
  | cons entry rest ih =>
    obtain ⟨k, v⟩ := entry
    by_cases hk : k = key
    · subst hk
      by_cases h : other = k <;> simp [put, get?_cons, h]
    · by_cases ho : other = k
      · subst ho; simp [put, get?_cons, hk]
      · simp [put, get?_cons, hk, ho, ih]

end Fields

def ofNat (n : Nat) : Json := .number (.finite (n : Rat))

def ofString (s : String) : Json := .text (Text.ofString s)

def record (fields : List (String × Json)) : Json :=
  .object (fields.map fun entry => (Text.ofString entry.1, entry.2))

def recordOf (fields : List (String × Option Json)) : Json :=
  record (fields.filterMap fun entry => entry.2.map fun value => (entry.1, value))

end Json
end LogTriage
