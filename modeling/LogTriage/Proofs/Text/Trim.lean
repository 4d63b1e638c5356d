import LogTriage.Text
import Mathlib.Data.List.Basic

/-! # Trimmed texts

A trimmed text is what stands between the blanks at either end, and begins and ends with no blank.
-/

namespace LogTriage.Text

set_option autoImplicit false

def Blanks (t : Text) : Prop := ∀ u ∈ t, isBlank u.toNat = true

/-- `body` is the text without the blanks at its ends. -/
structure Trims (t body : Text) : Prop where
  split : ∃ lead trail, t = lead ++ body ++ trail ∧ Blanks lead ∧ Blanks trail
  head : ∀ u ∈ body.head?, isBlank u.toNat = false
  last : ∀ u ∈ body.getLast?, isBlank u.toNat = false

theorem trimStart_split (t : Text) : ∃ lead, t = lead ++ trimStart t ∧ Blanks lead := by
  refine ⟨t.takeWhile fun u => isBlank u.toNat, List.takeWhile_append_dropWhile.symm, ?_⟩
  intro u hu
  have hBlank := (List.all_takeWhile : (t.takeWhile fun u => isBlank u.toNat).all _ = true)
  exact List.all_eq_true.mp hBlank u hu

theorem trimStart_head (t : Text) : ∀ u ∈ (trimStart t).head?, isBlank u.toNat = false := by
  intro u hu
  have hNot := List.head?_dropWhile_not (fun u : CodeUnit => isBlank u.toNat) t
  rw [trimStart] at hu
  rw [Option.mem_def.mp hu] at hNot
  simpa using hNot

theorem trims_trim (t : Text) : Trims t (trim t) := by
  obtain ⟨lead, hLead, hLeadBlank⟩ := trimStart_split t
  obtain ⟨trail, hTrail, hTrailBlank⟩ := trimStart_split (trimStart t).reverse
  have hBody : trimStart t = trim t ++ trail.reverse := by
    rw [trim, ← List.reverse_append, ← hTrail, List.reverse_reverse]
  refine ⟨⟨lead, trail.reverse, ?_, hLeadBlank, ?_⟩, ?_, ?_⟩
  · rw [List.append_assoc, ← hBody]
    exact hLead
  · intro u hu
    exact hTrailBlank u (List.mem_reverse.mp hu)
  · -- What is cut off at the end leaves the first unit in its place, unless nothing is left.
    intro u hu
    apply trimStart_head t u
    rw [hBody, Option.mem_def, List.head?_append, Option.mem_def.mp hu]
    rfl
  · intro u hu
    apply trimStart_head (trimStart t).reverse u
    rwa [trim, List.getLast?_reverse] at hu

theorem mem_trim {t : Text} {u : CodeUnit} (hu : u ∈ t) (h : isBlank u.toNat = false) : u ∈ trim t := by
  obtain ⟨lead, trail, hSplit, hLead, hTrail⟩ := (trims_trim t).split
  have hNot {blanks : Text} (hBlanks : Blanks blanks) : u ∉ blanks := fun hMem => by
    simp [hBlanks u hMem] at h
  rw [hSplit, List.mem_append, List.mem_append] at hu
  simpa [hNot hLead, hNot hTrail] using hu

theorem trimStart_eq_self {t : Text} (h : ∀ u ∈ t, isBlank u.toNat = false) : trimStart t = t := by
  cases t with
  | nil => rfl
  | cons u t =>
    apply List.dropWhile_cons_of_neg
    rw [h u List.mem_cons_self]
    decide

theorem trim_eq_self {t : Text} (h : ∀ u ∈ t, isBlank u.toNat = false) : trim t = t := by
  have hReverse : ∀ u ∈ t.reverse, isBlank u.toNat = false := fun u hu => h u (List.mem_reverse.mp hu)
  rw [trim, trimStart_eq_self h, trimStart_eq_self hReverse, List.reverse_reverse]

end LogTriage.Text
