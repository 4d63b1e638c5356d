import LogTriage.Pattern
import Mathlib.Data.List.Nodup

/-! # The letters of flags

Reading flags takes one letter after the other. A letter can be taken as long as it is free, so a text is
read as flags just if its letters are different and known.
-/

namespace LogTriage.Pattern.Flags

set_option autoImplicit false

open Text (charOf)

/-- The letters that can still be added. -/
def free (f : Flags) : List Char := (f.letters.filter (!·.2)).map (·.1)

variable {f : Flags} {c : Char} {t : Text}

theorem mem_free_iff : c ∈ f.free ↔ (c, false) ∈ f.letters := by
  simp [free]

/-- A free letter is added, and is free no longer. -/
theorem add_of_mem (h : c ∈ f.free) : ∃ g, f.add c = some g ∧ ∀ d, d ∈ g.free ↔ d ≠ c ∧ d ∈ f.free := by
  simp only [mem_free_iff, letters, List.mem_cons, Prod.mk.injEq, List.not_mem_nil, or_false] at h ⊢
  rcases h with ⟨rfl, h⟩ | ⟨rfl, h⟩ | ⟨rfl, h⟩ | ⟨rfl, h⟩ | ⟨rfl, h⟩ | ⟨rfl, h⟩ | ⟨rfl, h⟩ <;>
  · refine ⟨_, by rw [add, ← h]; rfl, ?_⟩
    grind

theorem add_of_not_mem (h : c ∉ f.free) : f.add c = none := by
  simp only [mem_free_iff, letters, List.mem_cons, Prod.mk.injEq, List.not_mem_nil, or_false] at h
  unfold add
  split <;> grind

/-- Reading on from the flags read so far, if there are any. -/
def addAll (f : Option Flags) (t : Text) : Option Flags :=
  t.foldl (fun f u => f.bind fun f => f.add (charOf u)) f

theorem addAll_none (t : Text) : addAll none t = none := by
  induction t with
  | nil => rfl
  | cons u rest ih => exact ih

theorem addAll_isSome_iff : (addAll (some f) t).isSome = true ↔
    (t.map charOf).Nodup ∧ ∀ c ∈ t.map charOf, c ∈ f.free := by
  induction t generalizing f with
  | nil => simp [addAll]
  | cons u rest ih =>
    rw [List.map_cons, List.nodup_cons, List.forall_mem_cons]
    by_cases hFree : charOf u ∈ f.free
    · obtain ⟨g, hAdd, hRest⟩ := add_of_mem hFree
      have hStep : addAll (some f) (u :: rest) = addAll (some g) rest := congrArg (addAll · rest) hAdd
      rw [hStep, ih]
      simp only [hRest]
      constructor
      · rintro ⟨hNodup, hAll⟩
        exact ⟨⟨fun hMem => (hAll _ hMem).1 rfl, hNodup⟩, hFree, fun c hc => (hAll c hc).2⟩
      · rintro ⟨⟨hNew, hNodup⟩, -, hAll⟩
        exact ⟨hNodup, fun c hc => ⟨ne_of_mem_of_not_mem hc hNew, hAll c hc⟩⟩
    · have hStep : addAll (some f) (u :: rest) = addAll none rest :=
        congrArg (addAll · rest) (add_of_not_mem hFree)
      rw [hStep, addAll_none]
      simp [hFree]

theorem ofText_isSome_iff : (ofText t).isSome = true ↔
    (t.map charOf).Nodup ∧ ∀ c ∈ t.map charOf, c ∈ ['d', 'g', 'i', 'm', 's', 'u', 'y'] :=
  addAll_isSome_iff

end LogTriage.Pattern.Flags
