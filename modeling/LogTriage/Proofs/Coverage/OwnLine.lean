import LogTriage.Occurrence
import LogTriage.Proofs.Coverage
import LogTriage.Rule.Kernel
import Mathlib.Order.Bounds.Defs

/-! # The line of a position

The line of a position is found in two ways. A timestamp is looked for between the newlines on either
side of the position; coverage goes by the starts of all lines and halves its way to the last one in
time. Both come to the same line, so a match has the timestamp of the first line that it covers.
-/

namespace LogTriage.Coverage

set_option autoImplicit false

open Text Pattern

/-- The number under which coverage finds the line of position `p`. -/
def lineIndex (content : Text) (p : Nat) : Nat := lineIndexAt (lineStarts 0 content.lines) p

/-- The first and the last line that a match covers. -/
def lineSpan (content : Text) (m : Found) : Nat × Nat :=
  (lineIndex content (touched m).1, lineIndex content (touched m).2)

variable {content : Text}

theorem lineSpan_mem {rules : List Rule} {rule : Rule} (hRule : rule ∈ rules) {m : Found}
    (hm : m ∈ rule.pattern.scan content) : lineSpan content m ∈ lineSpans content rules :=
  List.mem_flatMap.mpr ⟨rule, hRule, List.mem_map_of_mem hm⟩

theorem isCovered_singleton (span : Nat × Nat) (i : Nat) :
    isCovered [span] i = true ↔ span.1 ≤ i ∧ i ≤ span.2 := by
  simp [isCovered]

theorem lineIndex_mono {p q : Nat} (h : p ≤ q) : lineIndex content p ≤ lineIndex content q := by
  rw [lineIndex, lineIndex, lineIndexAt_lineStarts, lineIndexAt_lineStarts]
  exact lineNumber_mono content h

theorem lineSpan_least (m : Found) :
    IsLeast {i | isCovered [lineSpan content m] i = true} (lineSpan content m).1 := by
  constructor
  · have hOrder : (touched m).1 ≤ (touched m).2 := Nat.le_add_right _ _
    exact (isCovered_singleton _ _).mpr ⟨Nat.le_refl _, lineIndex_mono hOrder⟩
  · intro i hi
    exact ((isCovered_singleton _ _).mp hi).1

theorem lineIndex_bounds {p : Nat} (hp : p ≤ content.length) :
    lineFirst content (lineIndex content p) ≤ p ∧ p ≤ lineStop content (lineIndex content p) := by
  rw [lineIndex, lineIndexAt_lineStarts]
  exact (lineNumber_eq_iff (lineNumber_lt_length_lines content p) hp).mp rfl

theorem getElem?_lineIndex {p : Nat} (hp : p ≤ content.length) :
    content.lines[lineIndex content p]? = some (lineAt content p) := by
  have hLess : lineIndex content p < content.lines.length := by
    rw [lineIndex, lineIndexAt_lineStarts]
    exact lineNumber_lt_length_lines content p
  have hLine := List.getElem?_eq_getElem hLess
  obtain ⟨hFirst, hStop⟩ := lineIndex_bounds hp
  rw [lineAt_of_getElem? hLine hFirst hStop]
  exact hLine

/-- Behind a newline the next line begins. -/
theorem eq_lineStop_of_newline {p : Nat} (h : content[p]? = some newline) :
    p = lineStop content (lineIndex content p) := by
  obtain ⟨hLess, -⟩ := List.getElem?_eq_some_iff.mp h
  obtain ⟨hFirst, hStop⟩ := lineIndex_bounds (Nat.le_of_lt hLess)
  have hNext := lineNumber_succ h
  rw [lineIndex, lineIndexAt_lineStarts] at hFirst hStop ⊢
  by_contra hNe
  have hSame : lineNumber content (p + 1) = lineNumber content p := by
    apply (lineNumber_eq_iff (lineNumber_lt_length_lines content p) hLess).mpr
    omega
  omega

/-- Around every position stands the line whose number coverage finds: it begins at the start of the text
or behind a newline, ends at the next newline or with the text, and has the position in it. A newline
belongs to the line that it ends. So the timestamp of a match is that of the first line which coverage
takes for the match. -/
theorem lineAt_lineIndex (content : Text) :
    (∀ p ≤ content.length,
      content.lines[lineIndex content p]? = some (lineAt content p) ∧
      StandsAt content (lineAt content p) (lineFirst content (lineIndex content p))
        (lineStop content (lineIndex content p)) ∧
      lineFirst content (lineIndex content p) ≤ p ∧ p ≤ lineStop content (lineIndex content p) ∧
      (content[p]? = some newline → p = lineStop content (lineIndex content p))) ∧
    ∀ (rules : List Rule) (stamps : Pattern), ∀ rule ∈ rules, ∀ m ∈ rule.pattern.scan content,
      lineSpan content m ∈ lineSpans content rules ∧
      IsLeast {i | isCovered [lineSpan content m] i = true} (lineSpan content m).1 ∧
      ∃ line, content.lines[(lineSpan content m).1]? = some line ∧
        (Occurrence.ofFound stamps content rule m).timestamp = Timestamp.onLine stamps line := by
  constructor
  · intro p hp
    have hLine := getElem?_lineIndex hp
    obtain ⟨hFirst, hStop⟩ := lineIndex_bounds hp
    exact ⟨hLine, standsAt_of_getElem? hLine, hFirst, hStop, eq_lineStop_of_newline⟩
  · intro rules stamps rule hRule m hm
    have hIndex : m.index ≤ content.length := (mem_scan hm).1 ▸ m.first.index_le_length
    exact ⟨lineSpan_mem hRule hm, lineSpan_least m, _, getElem?_lineIndex hIndex, rfl⟩

/-- Two lines of a log, each with a timestamp. -/
def twoLines : Text :=
  ofString "2024-10-07T10:17:15,1-04:00 up\n2024-10-07T10:18:20,2-04:00 down"

/-- Its match is a newline. -/
def lineBreak : Rule := Rule.ofKernel "\\n" "Line break" .unknown .error

/-- The match is the newline between the lines and has the timestamp of the first. -/
theorem lineAt_lineIndex_lineBreak :
    30 ≤ twoLines.length ∧ twoLines[30]? = some newline ∧ lineStop twoLines 0 = 30 ∧
    ∃ m ∈ lineBreak.pattern.scan twoLines, m.index = 30 ∧
      (Occurrence.ofFound Timestamp.usualPattern twoLines lineBreak m).timestamp =
        some (ofString "2024-10-07T10:17:15,1-04:00") := by
  have hLength : 30 ≤ twoLines.length := by decide +kernel
  have hNewline : twoLines[30]? = some newline := by decide +kernel
  have hIndex : lineIndex twoLines 30 = 0 := by decide +kernel
  obtain ⟨hPlaces, hMatches⟩ := lineAt_lineIndex twoLines
  have hStop := (hPlaces 30 hLength).2.2.2.2 hNewline
  rw [hIndex] at hStop
  obtain ⟨m, hm, hPlace⟩ : ∃ m ∈ lineBreak.pattern.scan twoLines, m.index = 30 := by decide +kernel
  refine ⟨hLength, hNewline, hStop.symm, m, hm, hPlace, ?_⟩
  obtain ⟨-, -, line, hLine, hStamp⟩ :=
    hMatches [lineBreak] Timestamp.usualPattern lineBreak List.mem_cons_self m hm
  have hFirst : (lineSpan twoLines m).1 = 0 := by
    rw [lineSpan, touched, hPlace, hIndex]
  rw [hFirst] at hLine
  have hUp : twoLines.lines[0]? = some (ofString "2024-10-07T10:17:15,1-04:00 up") := by
    decide +kernel
  rw [hStamp, ← Option.some.inj (hUp.symm.trans hLine)]
  decide +kernel

end LogTriage.Coverage
