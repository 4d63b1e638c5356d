import LogTriage.Proofs.Schema.Acceptance
import Mathlib.Data.List.Forall2

/-! # Written forms

Whatever a check gives can be written down, and the check accepts what is written and gives the same
value. This holds of the checks of single values and is passed on to optional values, to lists and to the
fields of objects; raw rules are the first objects that have it.
-/

namespace LogTriage

set_option autoImplicit false

namespace Schema

open Checked

variable {α : Type} {check : Check α} {path : Path} {value : Option Json}

/-- A check gives sound values only, and gives back every sound value from what is written for it, which
may be nothing at all. -/
structure RoundTrips (check : Check α) (write : α → Option Json) (Sound : α → Prop) : Prop where
  sound : ∀ {path : Path} {value : Option Json} {a : α}, check path value = .valid a → Sound a
  accepts : ∀ {a : α}, Sound a → ∀ path : Path, check path (write a) = .valid a

namespace RoundTrips

variable {write : α → Json} {Sound : α → Prop}

theorem of_iff {write : α → Option Json}
    (h : ∀ path value a, check path value = .valid a ↔ value = write a ∧ Sound a) :
    RoundTrips check write Sound where
  sound hValid := ((h _ _ _).mp hValid).2
  accepts hSound path := (h path _ _).mpr ⟨rfl, hSound⟩

theorem again {write : α → Option Json} (h : RoundTrips check write Sound) {a : α}
    (hValid : check path value = .valid a) (other : Path) : check other (write a) = .valid a :=
  h.accepts (h.sound hValid) other

theorem optional (h : RoundTrips check (fun a => some (write a)) Sound) :
    RoundTrips (Schema.optional check) (fun o => o.map write) (fun o => ∀ a ∈ o, Sound a) where
  sound := by
    intro path value o hValid
    cases value with
    | none =>
      obtain rfl : none = o := by simpa [Schema.optional] using hValid
      simp
    | some j =>
      obtain ⟨a, hCheck, rfl⟩ := map_eq_valid_iff.mp hValid
      rintro b ⟨⟩
      exact h.sound hCheck
  accepts := by
    intro o hSound path
    cases o with
    | none => rfl
    | some a => exact map_eq_valid_iff.mpr ⟨a, h.accepts (hSound a rfl) path, rfl⟩

theorem withDefault {default : α} (h : RoundTrips check (fun a => some (write a)) Sound)
    (hDefault : Sound default) :
    RoundTrips (Schema.withDefault default check) (fun a => some (write a)) Sound where
  sound := by
    intro path value a hValid
    cases value with
    | none =>
      obtain rfl : default = a := by simpa [Schema.withDefault] using hValid
      exact hDefault
    | some j => exact h.sound hValid
  accepts hSound path := h.accepts hSound path

theorem itemsFrom_eq_valid (h : RoundTrips check (fun a => some (write a)) Sound) (path : Path)
    (index : Nat) {as : List α} (hSound : ∀ a ∈ as, Sound a) :
    itemsFrom check path index (as.map write) = as.map .valid := by
  induction as generalizing index with
  | nil => rfl
  | cons a rest ih =>
    obtain ⟨hFirst, hRest⟩ := List.forall_mem_cons.mp hSound
    rw [List.map_cons, itemsFrom, h.accepts hFirst, ih (index + 1) hRest, List.map_cons]

theorem sound_of_itemsFrom (h : RoundTrips check (fun a => some (write a)) Sound) {index : Nat}
    {items : List Json} {as : List α} (hItems : itemsFrom check path index items = as.map .valid) :
    ∀ a ∈ as, Sound a := by
  induction items generalizing index as with
  | nil =>
    obtain rfl : as = [] := by simpa [itemsFrom] using hItems
    simp
  | cons item rest ih =>
    cases as with
    | nil => cases hItems
    | cons a as =>
      obtain ⟨hFirst, hRest⟩ := List.cons.inj hItems
      exact List.forall_mem_cons.mpr ⟨h.sound hFirst, ih hRest⟩

theorem listOf (h : RoundTrips check (fun a => some (write a)) Sound) :
    RoundTrips (Schema.listOf check) (fun as => some (.list (as.map write)))
      (fun as => ∀ a ∈ as, Sound a) where
  sound := by
    intro path value as hValid
    unfold Schema.listOf at hValid
    split at hValid
    · exact h.sound_of_itemsFrom (all_eq_valid_iff.mp hValid)
    · exact absurd hValid wrongKind_ne_valid
  accepts hSound path := all_eq_valid_iff.mpr (h.itemsFrom_eq_valid path 0 hSound)

theorem field {write : α → Option Json} (h : RoundTrips check write Sound) {fs : Json.Fields}
    {name : String} {a : α} (hValue : fs.get? (Text.ofString name) = write a) (hSound : Sound a) :
    Schema.field name check path fs = .valid a := by
  rw [Schema.field, hValue]
  exact h.accepts hSound _

end RoundTrips

theorem fields_eq_valid_iff {fs : Json.Fields} :
    fields path value = .valid fs ↔ value = some (.object fs) := by
  unfold fields
  split
  · simp
  · next hOther =>
    apply iff_of_false wrongKind_ne_valid
    rintro rfl
    exact hOther fs rfl

theorem text_roundTrips (least : Nat) (most : Option Nat) :
    RoundTrips (text least most) (fun t => some (.text t)) (fun t => Within least most t.length) :=
  .of_iff fun _ _ _ => text_eq_valid_iff

theorem boolean_roundTrips : RoundTrips boolean (fun b => some (.bool b)) (fun _ => True) :=
  .of_iff fun _ _ _ => by rw [boolean_eq_valid_iff, and_true]

theorem natural_roundTrips (least : Nat) (most : Option Nat) :
    RoundTrips (natural least most) (fun n => some (.ofNat n)) (Within least most) :=
  .of_iff fun _ _ _ => natural_eq_valid_iff

end Schema

/-! ## Raw rules -/

open Schema in
def RawSeverity.IsShaped : RawSeverity → Prop
  | .name t => Within 1 none t.length
  | .rank n => ∃ i : Int, n = .finite i

open Schema in
/-- The shape that is asked of raw rules, whether they compile or not. -/
structure RawRule.IsShaped (raw : RawRule) : Prop where
  regex : Within 1 none raw.regex.length
  message : Within 1 (some 2048) raw.message.length
  category : ∀ t ∈ raw.category, Within 1 none t.length
  severity : ∀ s ∈ raw.severity, s.IsShaped

namespace Schema

open Checked

variable {path : Path} {value : Option Json}

theorem within_zero (n : Nat) : Within 0 none n := ⟨Nat.zero_le n, by simp⟩

theorem severity_number_eq_valid_iff {x : Number} {s : RawSeverity} :
    severity path (some (.number x)) = .valid s ↔ s = .rank x ∧ ∃ i : Int, x = .finite i := by
  rw [← Number.int?_isSome_iff]
  cases x with
  | nan => simp [severity, mismatch_ne_valid, Number.int?]
  | infinity negative => simp [severity, mismatch_ne_valid, Number.int?]
  | finite q =>
    have hFinite : severity path (some (.number (.finite q))) =
        if (Number.finite q).int?.isSome then .valid (.rank (.finite q))
        else mismatch path (.wrongKind .integer .float) := rfl
    rw [hFinite]
    split_ifs with hInt
    · simp [hInt, eq_comm]
    · simp [hInt, mismatch_ne_valid]

theorem severity_eq_valid_iff {s : RawSeverity} :
    severity path value = .valid s ↔ value = some s.toJson ∧ s.IsShaped := by
  constructor
  · intro h
    cases value with
    | none => exact absurd h mismatch_ne_valid
    | some j =>
      cases j with
      | text t =>
        obtain ⟨u, hText, rfl⟩ := map_eq_valid_iff.mp h
        exact text_eq_valid_iff.mp hText
      | number x =>
        obtain ⟨rfl, hInt⟩ := severity_number_eq_valid_iff.mp h
        exact ⟨rfl, hInt⟩
      | _ => exact absurd h mismatch_ne_valid
  · rintro ⟨rfl, hShaped⟩
    cases s with
    | name t => exact map_eq_valid_iff.mpr ⟨t, text_eq_valid_iff.mpr ⟨rfl, hShaped⟩, rfl⟩
    | rank x => exact severity_number_eq_valid_iff.mpr ⟨rfl, hShaped⟩

theorem rawRule_eq_valid_iff {raw : RawRule} :
    rawRule path value = .valid raw ↔ ∃ fs, value = some (.object fs) ∧
      field "regex" (text 1 none) path fs = .valid raw.regex ∧
      field "message" (text 1 (some 2048)) path fs = .valid raw.message ∧
      field "flags" (optional (text 0 none)) path fs = .valid raw.flags ∧
      field "category" (optional (text 1 none)) path fs = .valid raw.category ∧
      field "severity" (optional severity) path fs = .valid raw.severity := by
  rw [rawRule, bind_eq_valid_iff]
  simp only [fields_eq_valid_iff, map_eq_valid_iff, Prod.exists, both_eq_valid_iff]
  constructor
  · rintro ⟨fs, rfl, regex, message, flags, category, severity, h, rfl⟩
    obtain ⟨⟨⟨⟨hRegex, hMessage⟩, hFlags⟩, hCategory⟩, hSeverity⟩ := h
    exact ⟨fs, rfl, hRegex, hMessage, hFlags, hCategory, hSeverity⟩
  · rintro ⟨fs, rfl, hRegex, hMessage, hFlags, hCategory, hSeverity⟩
    exact ⟨fs, rfl, _, _, _, _, _, ⟨⟨⟨⟨hRegex, hMessage⟩, hFlags⟩, hCategory⟩, hSeverity⟩, rfl⟩

theorem severity_roundTrips :
    RoundTrips severity (fun s => some s.toJson) RawSeverity.IsShaped :=
  .of_iff fun _ _ _ => severity_eq_valid_iff

theorem rawRule_roundTrips :
    RoundTrips rawRule (fun raw => some raw.toJson) RawRule.IsShaped where
  sound := by
    intro path value raw hValid
    obtain ⟨fs, -, hRegex, hMessage, -, hCategory, hSeverity⟩ := rawRule_eq_valid_iff.mp hValid
    exact ⟨(text_roundTrips 1 none).sound hRegex, (text_roundTrips 1 (some 2048)).sound hMessage,
      (text_roundTrips 1 none).optional.sound hCategory, severity_roundTrips.optional.sound hSeverity⟩
  accepts := by
    intro raw hShaped path
    have hNames : ["regex", "message", "flags", "category", "severity"].Nodup := by decide
    rw [RawRule.toJson, Json.recordOf_eq]
    refine rawRule_eq_valid_iff.mpr ⟨_, rfl, ?_, ?_, ?_, ?_, ?_⟩
    · exact (text_roundTrips 1 none).field (Json.Fields.get?_ofEntries "regex" hNames)
        hShaped.regex
    · exact (text_roundTrips 1 (some 2048)).field
        (Json.Fields.get?_ofEntries "message" hNames) hShaped.message
    · exact (text_roundTrips 0 none).optional.field
        (Json.Fields.get?_ofEntries "flags" hNames) (fun t _ => within_zero t.length)
    · exact (text_roundTrips 1 none).optional.field
        (Json.Fields.get?_ofEntries "category" hNames) hShaped.category
    · exact severity_roundTrips.optional.field
        (Json.Fields.get?_ofEntries "severity" hNames) hShaped.severity

/-! ## Places -/

section Place

variable {α : Type} {check : Check α}

/-- What a check accepts, and as what, does not depend on the place of the value. -/
structure Placeless (check : Check α) : Prop where
  moved : ∀ {path other : Path} {value : Option Json} {a : α},
    check path value = .valid a → check other value = .valid a

theorem Placeless.of_iff {Accepts : Option Json → α → Prop}
    (h : ∀ path value a, check path value = .valid a ↔ Accepts value a) : Placeless check where
  moved hValid := (h _ _ _).mpr ((h _ _ _).mp hValid)

theorem Placeless.optional (h : Placeless check) : Placeless (optional check) where
  moved := by
    intro path other value o hValid
    cases value with
    | none => exact hValid
    | some j =>
      obtain ⟨a, hCheck, rfl⟩ := map_eq_valid_iff.mp hValid
      exact map_eq_valid_iff.mpr ⟨a, h.moved hCheck, rfl⟩

theorem Placeless.withDefault (h : Placeless check) (default : α) :
    Placeless (withDefault default check) where
  moved := by
    intro path other value a hValid
    cases value with
    | none => exact hValid
    | some j => exact h.moved hValid

theorem Placeless.itemsFrom_eq_valid_iff (h : Placeless check) {path : Path} {index : Nat}
    {items : List Json} {as : List α} :
    itemsFrom check path index items = as.map .valid ↔
      items.Forall₂ (fun j a => check [] (some j) = .valid a) as := by
  induction items generalizing index as with
  | nil => simp [itemsFrom]
  | cons item rest ih =>
    cases as with
    | nil => simp [itemsFrom]
    | cons a as =>
      rw [itemsFrom, List.map_cons, List.cons.injEq, List.forall₂_cons, ih]
      exact and_congr_left' ⟨h.moved, h.moved⟩

/-- A list is accepted if its items are accepted one by one. -/
theorem Placeless.listOf_eq_valid_iff (h : Placeless check) {path : Path} {value : Option Json}
    {as : List α} :
    listOf check path value = .valid as ↔ ∃ items, value = some (.list items) ∧
      items.Forall₂ (fun j a => check [] (some j) = .valid a) as := by
  unfold listOf
  split
  · next items => simp [all_eq_valid_iff, h.itemsFrom_eq_valid_iff]
  · next hOther =>
    apply iff_of_false wrongKind_ne_valid
    rintro ⟨items, rfl, -⟩
    exact hOther items rfl

theorem Placeless.listOf (h : Placeless check) : Placeless (listOf check) :=
  .of_iff fun _ _ _ => h.listOf_eq_valid_iff

theorem text_placeless (least : Nat) (most : Option Nat) : Placeless (text least most) :=
  .of_iff fun _ _ _ => text_eq_valid_iff

theorem boolean_placeless : Placeless boolean := .of_iff fun _ _ _ => boolean_eq_valid_iff

theorem natural_placeless (least : Nat) (most : Option Nat) : Placeless (natural least most) :=
  .of_iff fun _ _ _ => natural_eq_valid_iff

theorem severity_placeless : Placeless severity := .of_iff fun _ _ _ => severity_eq_valid_iff

theorem rawRule_placeless : Placeless rawRule where
  moved := by
    intro path other value raw hValid
    obtain ⟨fs, hValue, hRegex, hMessage, hFlags, hCategory, hSeverity⟩ :=
      rawRule_eq_valid_iff.mp hValid
    exact rawRule_eq_valid_iff.mpr ⟨fs, hValue, (text_placeless 1 none).moved hRegex,
      (text_placeless 1 (some 2048)).moved hMessage, (text_placeless 0 none).optional.moved hFlags,
      (text_placeless 1 none).optional.moved hCategory, severity_placeless.optional.moved hSeverity⟩

end Place

end Schema
end LogTriage
