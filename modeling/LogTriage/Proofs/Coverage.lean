import LogTriage.Coverage
import LogTriage.Proofs.Pattern.LineScan

/-! # Covered lines by number

A match touches a line when one of its positions stands on it. The search among the line starts finds
the number of newlines before a position, and a line is covered when some match touches it.
-/

namespace LogTriage.Coverage

set_option autoImplicit false

open Text Pattern

/-- Halving finds the last line that begins in time, if the lines up to `k` are those that do. -/
theorem bisect_eq {starts : List Nat} {offset k : Nat}
    (h : ∀ i < starts.length, starts.getD i 0 ≤ offset ↔ i ≤ k) {low high : Nat} (hLow : low ≤ k)
    (hHigh : k ≤ high) (hLength : high < starts.length) : bisect starts offset low high = k := by
  -- `k` stays between the ends of the range, which close in on it.
  fun_induction bisect starts offset low high with
  | case1 low high hLess middle hStart ih =>
    have hMiddle : middle = (low + high + 1) / 2 := rfl
    apply ih ?_ hHigh hLength
    exact (h middle (by omega)).mp hStart
  | case2 low high hLess middle hStart ih =>
    have hMiddle : middle = (low + high + 1) / 2 := rfl
    rw [h middle (by omega)] at hStart
    apply ih hLow
    · omega
    · omega
  | case3 low high hLess => omega

theorem length_lineStarts (offset : Nat) (lines : List Text) :
    (lineStarts offset lines).length = lines.length := by
  induction lines generalizing offset with
  | nil => rfl
  | cons line rest ih => rw [lineStarts, List.length_cons, List.length_cons, ih]

theorem getD_lineStarts (offset : Nat) (lines : List Text) {i : Nat} (h : i < lines.length) :
    (lineStarts offset lines).getD i 0 = offset + extent (lines.take i) := by
  induction lines generalizing offset i with
  | nil => simp at h
  | cons line rest ih =>
    cases i with
    | zero => rfl
    | succ i =>
      rw [lineStarts, List.getD_cons_succ, ih _ (Nat.lt_of_succ_lt_succ h), List.take_succ_cons,
        extent_cons]
      omega

theorem lineIndexAt_lineStarts (t : Text) (p : Nat) :
    lineIndexAt (lineStarts 0 t.lines) p = lineNumber t p := by
  have hLength := length_lineStarts 0 t.lines
  have hNumber := lineNumber_lt_length_lines t p
  apply bisect_eq
  · intro i hi
    rw [hLength] at hi
    rw [getD_lineStarts 0 t.lines hi, Nat.zero_add, le_lineNumber_iff hi]
    rfl
  · exact Nat.zero_le _
  · omega
  · omega

/-- A position of the match stands on the line; one that reads nothing stands where it begins. -/
def touches (content : Text) (m : Found) (line : Nat) : Bool :=
  (List.range' m.index (max 1 (m.stop.index - m.index))).any (lineNumber content · == line)

def isTouched (content : Text) (rules : List Rule) (line : Nat) : Bool :=
  rules.any fun rule => (rule.pattern.scan content).any (touches content · line)

theorem touches_iff {content : Text} {m : Found} {line : Nat} :
    touches content m line = true ↔ lineNumber content (touched m).1 ≤ line ∧
      line ≤ lineNumber content (touched m).2 := by
  rw [touches, touched]
  simp only [List.any_eq_true, List.mem_range'_1, beq_iff_eq]
  constructor
  · rintro ⟨p, ⟨hLow, hHigh⟩, rfl⟩
    exact ⟨lineNumber_mono content hLow, lineNumber_mono content (by omega)⟩
  · rintro ⟨hLow, hHigh⟩
    obtain ⟨p, hFirst, hLast, hEq⟩ := exists_lineNumber_eq content (Nat.le_add_right _ _) hLow hHigh
    exact ⟨p, ⟨hFirst, by omega⟩, hEq⟩

theorem isCovered_lineSpans (content : Text) (rules : List Rule) (line : Nat) :
    isCovered (lineSpans content rules) line = isTouched content rules line := by
  rw [Bool.eq_iff_iff, isCovered, lineSpans, isTouched]
  simp only [List.any_flatMap, List.any_map, span, lineIndexAt_lineStarts, List.any_eq_true,
    Function.comp_apply, Bool.and_eq_true, decide_eq_true_eq, touches_iff]

theorem uncoveredLines_eq (content : Text) (rules : List Rule) :
    uncoveredLines content rules =
      (content.lines.zipIdx.filter fun entry => !isTouched content rules entry.2).map (·.1) := by
  simp only [uncoveredLines, outside, isCovered_lineSpans]

/-- A match of a pattern that stays on its line touches no other. -/
theorem eq_of_touches {p : Pattern} (hStay : p.staysOnLine = true) {content : Text}
    {m : Found} (hm : m ∈ p.scan content) {line : Nat} (h : touches content m line = true) :
    line = Text.lineNumber content m.index := by
  have hFree : ∀ l ∈ content.lines, Text.newline ∉ l :=
    fun l hl => Text.newline_not_mem_of_mem_lines hl
  have hScan := scan_ofLines hStay (Text.lines_ne_nil content)
  rw [Text.ofLines_lines] at hScan
  rw [hScan] at hm
  obtain ⟨⟨text, k⟩, hEntry, hm⟩ := List.mem_flatMap.mp hm
  obtain ⟨n, hn, rfl⟩ := List.mem_map.mp hm
  dsimp only at h ⊢
  have hLine : content.lines[k]? = some text := List.mem_zipIdx_iff_getElem?.mp hEntry
  obtain ⟨hText, hMatch⟩ := mem_scan hn
  obtain ⟨-, hStopText, hOrder⟩ := matchAt_onward hMatch
  have hFirst := lineNumber_within_around hFree hLine hText
  have hStop := lineNumber_within_around hFree hLine (hStopText.trans hText)
  rw [Text.ofLines_lines] at hFirst hStop
  have hLast : (touched (n.within (.around content.lines k))).2 ≤
      (n.stop.within (.around content.lines k)).index := by
    have hLe : (n.first.within (.around content.lines k)).index ≤
        (n.stop.within (.around content.lines k)).index := Nat.add_le_add_right hOrder _
    simp only [touched, Found.index, Found.within]
    omega
  obtain ⟨hLow, hHigh⟩ := touches_iff.mp h
  have hIndex : Text.lineNumber content (n.within (.around content.lines k)).index = k := hFirst
  have hTouched : (touched (n.within (.around content.lines k))).1 =
      (n.within (.around content.lines k)).index := rfl
  rw [hTouched, hIndex] at hLow
  rw [hIndex]
  refine Nat.le_antisymm ?_ hLow
  calc
    line ≤ _ := hHigh
    _ ≤ _ := Text.lineNumber_mono content hLast
    _ = k := hStop

end LogTriage.Coverage
