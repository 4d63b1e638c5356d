import LogTriage.Proofs.Pattern.Content
import LogTriage.Proofs.Text.Lines
import LogTriage.Proofs.Text.Quoted
import LogTriage.Proofs.Text.Trim

/-! # Match contents in normal form

The content of a match has the texts of its groups or lines in their order, less those that are empty or
absent. A list of them has never just one text, so a content stands in one form only, and its key tells
it from every other content.
-/

namespace LogTriage.MatchContent

set_option autoImplicit false

open Text (newline)

/-- What the content of a match says about the match. -/
structure Normalizes (whole : Text) (groups : List (Option Text)) (c : MatchContent) : Prop where
  not_alone : ∀ ts, c = .several ts → ts.length ≠ 1
  not_empty : ∀ ts, c = .several ts → [] ∉ ts
  of_groups : groups ≠ [] → c.parts.map some = groups.filter fun g => g ≠ none ∧ g ≠ some []
  of_line : groups = [] → newline ∉ whole → c = .single whole
  of_lines : groups = [] → newline ∈ whole →
    ∃ body, Text.Trims whole body ∧ c.parts = body.lines.filter (· ≠ [])
  on_lines : groups = [] → ∀ t ∈ c.parts, newline ∉ t

theorem length_ne_one_of_ofKept {ts us : List Text} (h : ofKept ts = .several us) :
    us.length ≠ 1 := by
  rw [ofKept.eq_def] at h
  split at h
  · cases h
  · rename_i hNotOne
    injection h with h
    intro hLength
    obtain ⟨t, hOne⟩ := List.length_eq_one_iff.mp hLength
    exact hNotOne t (h.trans hOne)

theorem map_some_kept (groups : List (Option Text)) :
    (groups.reduceOption.filter (· ≠ [])).map some =
      groups.filter fun g => g ≠ none ∧ g ≠ some [] := by
  induction groups with
  | nil => rfl
  | cons g groups ih =>
    cases g with
    | none =>
      rw [List.reduceOption_cons_of_none, ih]
      rfl
    | some t =>
      rw [List.reduceOption_cons_of_some]
      by_cases hEmpty : t = []
      · subst hEmpty
        simpa using ih
      · rw [List.filter_cons_of_pos (by simpa using hEmpty), List.map_cons, ih,
          List.filter_cons_of_pos (by simpa using hEmpty)]

/-- What is kept of a list of texts is in normal form. -/
theorem ofKept_filter_several {ts us : List Text} (h : ofKept (ts.filter (· ≠ [])) = .several us) :
    us.length ≠ 1 ∧ [] ∉ us := by
  refine ⟨length_ne_one_of_ofKept h, ?_⟩
  have hParts : us = ts.filter (· ≠ []) := by rw [← parts_ofKept (ts.filter _), h]; rfl
  rw [hParts]
  simp

theorem normalizes_groups (whole : Text) {groups : List (Option Text)} (h : groups ≠ []) :
    Normalizes whole groups (ofMatch whole groups) := by
  have hEq : ofMatch whole groups = ofKept (groups.reduceOption.filter (· ≠ [])) := by
    rw [ofMatch, if_neg (by simpa using h)]
  rw [hEq]
  exact {
    not_alone := fun _ hSeveral => (ofKept_filter_several hSeveral).1
    not_empty := fun _ hSeveral => (ofKept_filter_several hSeveral).2
    of_groups := fun _ => by rw [parts_ofKept, map_some_kept]
    of_line := fun hNone => absurd hNone h
    of_lines := fun hNone => absurd hNone h
    on_lines := fun hNone => absurd hNone h }

theorem normalizes_line {whole : Text} (h : newline ∉ whole) :
    Normalizes whole [] (ofMatch whole []) := by
  have hEq : ofMatch whole [] = .single whole := by
    rw [ofMatch, if_pos List.isEmpty_nil, if_neg (by simpa using h)]
  rw [hEq]
  exact {
    not_alone := fun _ hSeveral => by cases hSeveral
    not_empty := fun _ hSeveral => by cases hSeveral
    of_groups := fun hSome => absurd rfl hSome
    of_line := fun _ _ => rfl
    of_lines := fun _ hNewline => absurd hNewline h
    on_lines := fun _ t ht => by rwa [List.mem_singleton.mp ht] }

theorem normalizes_lines {whole : Text} (h : newline ∈ whole) :
    Normalizes whole [] (ofMatch whole []) := by
  have hEq : ofMatch whole [] = ofKept (whole.trim.lines.filter (· ≠ [])) := by
    rw [ofMatch, if_pos List.isEmpty_nil, if_pos (by simpa using h)]
  rw [hEq]
  exact {
    not_alone := fun _ hSeveral => (ofKept_filter_several hSeveral).1
    not_empty := fun _ hSeveral => (ofKept_filter_several hSeveral).2
    of_groups := fun hSome => absurd rfl hSome
    of_line := fun _ hNone => absurd h hNone
    of_lines := fun _ _ => ⟨_, Text.trims_trim whole, parts_ofKept _⟩
    on_lines := by
      intro _ t ht
      rw [parts_ofKept] at ht
      exact Text.newline_not_mem_of_mem_lines (List.mem_of_mem_filter ht) }

theorem normalizes_ofMatch (whole : Text) (groups : List (Option Text)) :
    Normalizes whole groups (ofMatch whole groups) := by
  by_cases hGroups : groups = []
  · subst hGroups
    by_cases hNewline : newline ∈ whole
    · exact normalizes_lines hNewline
    · exact normalizes_line hNewline
  · exact normalizes_groups whole hGroups

/-- Contents have one key just when they are the same, be they one text or several. That goes for the
contents of matches, which stand in normal form. -/
theorem key_ofMatch_eq_iff :
    (∀ c d : MatchContent, c.key = d.key ↔ c = d) ∧
    (∀ t ts, key (.single t) ≠ key (.several ts)) ∧
    ∀ (whole whole' : Text) (groups groups' : List (Option Text)),
      ((ofMatch whole groups).key = (ofMatch whole' groups').key ↔
        ofMatch whole groups = ofMatch whole' groups') ∧
      Normalizes whole groups (ofMatch whole groups) := by
  refine ⟨fun c d => key_injective.eq_iff, ?_, ?_⟩
  · intro t ts h
    cases key_injective h
  · intro whole whole' groups groups'
    exact ⟨key_injective.eq_iff, normalizes_ofMatch whole groups⟩

end LogTriage.MatchContent
