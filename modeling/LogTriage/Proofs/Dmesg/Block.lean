import LogTriage.Dmesg.Range
import LogTriage.Proofs.Text.Lines
import Mathlib.Data.List.Infix

/-! # The range as a block

Whatever the order of its instants, the lines that are kept of a log stand one after the other in it, with
at most blank lines between them. Kept once they are kept again: the first of them opens the range as it
did before, and none of those behind it ends the range.
-/

namespace LogTriage.Dmesg

set_option autoImplicit false

variable (start stop : Option Rat)

/-- A line is passed over, ends the range or is kept. Once the range has begun, only blank lines are passed
over. -/
theorem linesInRange_cons_cases (inside : Bool) (line : Text) :
    ((line = [] ∨ inside = false) ∧ ∀ rest,
      linesInRange start stop inside (line :: rest) = linesInRange start stop inside rest) ∨
    (∀ rest, linesInRange start stop inside (line :: rest) = []) ∨
    (line ≠ [] ∧ ∀ rest,
      linesInRange start stop inside (line :: rest) = line :: linesInRange start stop true rest) := by
  by_cases hLine : line = []
  · exact .inl ⟨.inl hLine, fun rest => by rw [linesInRange, if_pos hLine]⟩
  by_cases hOpens : (!inside && reached start (lineInstant line)) = true
  · exact .inr (.inr ⟨hLine, fun rest => by rw [linesInRange, if_neg hLine, if_pos hOpens]⟩)
  by_cases hEnds : reached stop (lineInstant line) = true
  · exact .inr (.inl fun rest => by
      rw [linesInRange, if_neg hLine, if_neg hOpens, if_pos hEnds])
  cases inside with
  | true =>
    exact .inr (.inr ⟨hLine, fun rest => by
      rw [linesInRange, if_neg hLine, if_neg hOpens, if_neg hEnds, if_pos rfl]⟩)
  | false =>
    exact .inl ⟨.inr rfl, fun rest => by
      rw [linesInRange, if_neg hLine, if_neg hOpens, if_neg hEnds, if_neg Bool.false_ne_true]⟩

/-- A range that has begun keeps the lines ahead up to where it ends. -/
theorem linesInRange_isPrefix (lines : List Text) :
    linesInRange start stop true lines <+: lines.filter (· ≠ []) := by
  induction lines with
  | nil => exact List.prefix_rfl
  | cons line rest ih =>
    obtain ⟨hBlank, hPassed⟩ | hEnded | ⟨hLine, hKept⟩ := linesInRange_cons_cases start stop true line
    · obtain rfl : line = [] := hBlank.resolve_right Bool.noConfusion
      rw [hPassed, List.filter_cons_of_neg (by simp)]
      exact ih
    · rw [hEnded]
      exact List.nil_prefix
    · rw [hKept, List.filter_cons_of_pos (by simpa using hLine), List.prefix_cons_inj]
      exact ih

theorem linesInRange_isInfix (inside : Bool) (lines : List Text) :
    linesInRange start stop inside lines <:+: lines.filter (· ≠ []) := by
  induction lines with
  | nil => exact List.infix_rfl
  | cons line rest ih =>
    obtain ⟨-, hPassed⟩ | hEnded | ⟨hLine, hKept⟩ := linesInRange_cons_cases start stop inside line
    · rw [hPassed]
      apply ih.trans
      exact ((List.suffix_cons line rest).filter _).isInfix
    · rw [hEnded]
      exact List.nil_infix
    · rw [hKept, List.filter_cons_of_pos (by simpa using hLine)]
      apply List.IsPrefix.isInfix
      exact (List.prefix_cons_inj line).mpr (linesInRange_isPrefix start stop rest)

/-- The lines that are kept are kept again. -/
theorem linesInRange_self (inside : Bool) (lines : List Text) :
    linesInRange start stop inside (linesInRange start stop inside lines) =
      linesInRange start stop inside lines := by
  induction lines generalizing inside with
  | nil => rfl
  | cons line rest ih =>
    obtain ⟨-, hPassed⟩ | hEnded | ⟨-, hKept⟩ := linesInRange_cons_cases start stop inside line
    · rw [hPassed]
      exact ih inside
    · rw [hEnded]
      rfl
    · rw [hKept, hKept, ih true]

/-- The empty line behind the last newline is blank. -/
theorem linesInRange_concat_nil (inside : Bool) (lines : List Text) :
    linesInRange start stop inside (lines ++ [[]]) = linesInRange start stop inside lines := by
  induction lines generalizing inside with
  | nil => rfl
  | cons line rest ih =>
    rw [List.cons_append]
    obtain ⟨-, hPassed⟩ | hEnded | ⟨-, hKept⟩ := linesInRange_cons_cases start stop inside line
    · rw [hPassed, hPassed, ih]
    · rw [hEnded, hEnded]
    · rw [hKept, hKept, ih]

theorem newline_not_mem_of_mem_linesInRange {inside : Bool} {content line : Text}
    (h : line ∈ linesInRange start stop inside content.lines) : Text.newline ∉ line := by
  have hMem := (linesInRange_isInfix start stop inside content.lines).subset h
  exact Text.newline_not_mem_of_mem_lines (List.mem_of_mem_filter hMem)

/-- The range of a log is a block of its non-blank lines, unchanged and each with a newline after it; and
the same range of this block is all of it. -/
theorem filterRange_block (start stop : Option Rat) (content : Text) :
    (∃ block, block <:+: content.lines.filter (· ≠ []) ∧
      filterRange start stop content = block.flatMap (· ++ [Text.newline])) ∧
    filterRange start stop (filterRange start stop content) = filterRange start stop content := by
  constructor
  · exact ⟨_, linesInRange_isInfix start stop start.isNone content.lines, rfl⟩
  · have hLines : (filterRange start stop content).lines =
        linesInRange start stop start.isNone content.lines ++ [[]] :=
      Text.lines_flatMap_newline fun _ => newline_not_mem_of_mem_linesInRange start stop
    rw [filterRange, hLines, linesInRange_concat_nil, linesInRange_self]
    rfl

end LogTriage.Dmesg
