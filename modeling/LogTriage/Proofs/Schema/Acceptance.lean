import LogTriage.Proofs.Json.Fields
import LogTriage.Proofs.Number.Bounds
import LogTriage.Schema.RawRule

/-! # What checks accept

Each check of a single value accepts exactly one written form of each value it gives. A check of lists or
objects may also accept other forms, but whatever it gives can be written down and is given again.
-/

namespace LogTriage

set_option autoImplicit false

namespace Schema

variable {α β : Type}

namespace Checked

theorem map_eq_valid_iff {f : α → β} {c : Checked α} {b : β} :
    c.map f = .valid b ↔ ∃ a, c = .valid a ∧ f a = b := by
  cases c with
  | valid a => simp [map]
  | invalid ms => simp [map]

theorem both_eq_valid_iff {a : Checked α} {b : Checked β} {x : α} {y : β} :
    a.both b = .valid (x, y) ↔ a = .valid x ∧ b = .valid y := by
  cases a with
  | valid x' =>
    cases b with
    | valid y' => simp [both]
    | invalid ms => simp [both]
  | invalid ms => simp [both]

theorem bind_eq_valid_iff {c : Checked α} {f : α → Checked β} {b : β} :
    c.bind f = .valid b ↔ ∃ a, c = .valid a ∧ f a = .valid b := by
  cases c with
  | valid a => simp [bind]
  | invalid ms => simp [bind]

theorem accept_eq_valid_iff {ms : List Mismatch} {a b : α} :
    accept ms a = .valid b ↔ ms = [] ∧ a = b := by
  cases ms with
  | nil => simp [accept]
  | cons m ms => simp [accept]

theorem all_eq_valid_iff {cs : List (Checked α)} {as : List α} :
    all cs = .valid as ↔ cs = as.map .valid := by
  induction cs generalizing as with
  | nil => cases as <;> simp [all]
  | cons c cs ih =>
    rw [all, map_eq_valid_iff]
    constructor
    · rintro ⟨⟨a, rest⟩, hBoth, rfl⟩
      obtain ⟨rfl, hRest⟩ := both_eq_valid_iff.mp hBoth
      rw [ih.mp hRest, List.map_cons]
    · intro h
      cases as with
      | nil => cases h
      | cons a rest =>
        obtain ⟨rfl, hRest⟩ := List.cons.inj h
        exact ⟨(a, rest), both_eq_valid_iff.mpr ⟨rfl, ih.mpr hRest⟩, rfl⟩

theorem mismatches_map (f : α → β) (c : Checked α) : (c.map f).mismatches = c.mismatches := by
  cases c <;> rfl

theorem mismatches_both (a : Checked α) (b : Checked β) :
    (a.both b).mismatches = a.mismatches ++ b.mismatches := by
  cases a with
  | valid x =>
    cases b with
    | valid y => rfl
    | invalid ms => rfl
  | invalid ms => rfl

end Checked

open Checked

theorem mismatch_ne_valid {path : Path} {complaint : Complaint} {a : α} :
    mismatch path complaint ≠ .valid a := by
  simp [mismatch]

theorem wrongKind_ne_valid {path : Path} {expected : Kind} {value : Option Json} {a : α} :
    wrongKind path expected value ≠ .valid a := mismatch_ne_valid

variable {path : Path} {value : Option Json}

/-- A size of `least` or more, and of `most` at the most where that is given. -/
def Within (least : Nat) (most : Option Nat) (n : Nat) : Prop := least ≤ n ∧ ∀ m ∈ most, n ≤ m

theorem text_eq_valid_iff {least : Nat} {most : Option Nat} {t : Text} :
    text least most path value = .valid t ↔
      value = some (.text t) ∧ Within least most t.length := by
  unfold text
  split
  · next u =>
    rw [accept_eq_valid_iff, List.map_eq_nil_iff, List.append_eq_nil_iff]
    constructor
    · rintro ⟨⟨hSmall, hBig⟩, rfl⟩
      refine ⟨rfl, by simpa using hSmall, ?_⟩
      rintro n rfl
      simpa using hBig
    · rintro ⟨hSame, hLeast, hMost⟩
      obtain rfl : u = t := by simpa using hSame
      refine ⟨⟨by simpa using hLeast, ?_⟩, rfl⟩
      cases most with
      | none => rfl
      | some n => simpa using hMost n rfl
  · next hOther =>
    apply iff_of_false wrongKind_ne_valid
    rintro ⟨rfl, -⟩
    exact hOther t rfl

theorem boolean_eq_valid_iff {b : Bool} :
    boolean path value = .valid b ↔ value = some (.bool b) := by
  unfold boolean
  split
  · simp
  · next hOther =>
    apply iff_of_false wrongKind_ne_valid
    rintro rfl
    exact hOther b rfl

/-- An integer has no faults exactly when it is a natural number within the bounds. -/
theorem integerFaults_eq_nil_iff {least : Nat} {most : Option Nat} {x : Number} :
    integerFaults least most x = [] ↔
      ∃ n : Nat, x = .finite n ∧ Within least most n := by
  simp only [integerFaults, List.append_eq_nil_iff]
  constructor
  · rintro ⟨⟨hKind, hSmall⟩, hBig⟩
    have hInt : x.int?.isSome = true := by
      by_contra hNot
      rw [if_neg hNot] at hKind
      cases hKind
    obtain ⟨i, rfl⟩ := Number.int?_isSome_iff.mp hInt
    have hLeast : (least : Rat) ≤ i := by simpa [Number.lt] using hSmall
    have hPositive : (0 : Rat) ≤ i := le_trans (Nat.cast_nonneg least) hLeast
    obtain ⟨n, rfl⟩ : ∃ n : Nat, i = n := Int.eq_ofNat_of_zero_le (by exact_mod_cast hPositive)
    refine ⟨n, rfl, by exact_mod_cast hLeast, ?_⟩
    rintro m rfl
    have hMost : ((n : Int) : Rat) ≤ m := by simpa [Number.lt] using hBig
    exact_mod_cast hMost
  · rintro ⟨n, rfl, hLeast, hMost⟩
    have hInt : (Number.finite n).int?.isSome = true := Number.int?_isSome_iff.mpr ⟨n, rfl⟩
    refine ⟨⟨if_pos hInt, ?_⟩, ?_⟩
    · simpa [Number.lt] using hLeast
    · cases most with
      | none => rfl
      | some m => simpa [Number.lt] using hMost m rfl

/-- An accepted number is the very number of the document. -/
theorem natural_eq_valid_iff {least : Nat} {most : Option Nat} {n : Nat} :
    natural least most path value = .valid n ↔
      value = some (.ofNat n) ∧ Within least most n := by
  have hNumber (x : Number) (hx : x ≠ .nan) :
      natural least most path (some (.number x)) =
        .accept ((integerFaults least most x).map (Mismatch.mk path)) (x.nat?.getD 0) := by
    cases x with
    | nan => exact absurd rfl hx
    | infinity negative => rfl
    | finite q => rfl
  constructor
  · intro h
    have hForm : ∃ x, value = some (.number x) ∧ x ≠ .nan := by
      unfold natural at h
      split at h
      · exact absurd h wrongKind_ne_valid
      · next x hx => exact ⟨x, rfl, fun hNan => hx hNan⟩
      · exact absurd h wrongKind_ne_valid
    obtain ⟨x, rfl, hx⟩ := hForm
    rw [hNumber x hx, accept_eq_valid_iff, List.map_eq_nil_iff] at h
    obtain ⟨hFaults, hValue⟩ := h
    obtain ⟨k, rfl, hBounds⟩ := integerFaults_eq_nil_iff.mp hFaults
    obtain rfl : k = n := by simpa [Number.nat?_finite] using hValue
    exact ⟨rfl, hBounds⟩
  · rintro ⟨rfl, hBounds⟩
    rw [Json.ofNat, hNumber _ (by simp), accept_eq_valid_iff, List.map_eq_nil_iff,
      Number.nat?_finite]
    exact ⟨integerFaults_eq_nil_iff.mpr ⟨n, rfl, hBounds⟩, rfl⟩

end Schema
end LogTriage
