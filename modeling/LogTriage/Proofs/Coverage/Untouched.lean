import LogTriage.Proofs.Coverage
import LogTriage.Rule.Kernel
import Mathlib.Order.Interval.Finset.Nat

/-! # The lines left over

What is left of a text are its lines in their order, less those that some match touches. A match and a
line are compared by the places that they take up, a newline being a place of the line that it ends.
-/

namespace LogTriage.Coverage

set_option autoImplicit false

open Text Pattern

/-- The places that a match reads, or the one it stands at if it reads nothing. -/
def reach (m : Found) : Finset Nat := Finset.Icc m.index (m.index + (m.text.length - 1))

/-- The places of line `i`, up to its newline or the end of the text. -/
def lineRange (content : Text) (i : Nat) : Finset Nat :=
  Finset.Icc (lineFirst content i) (lineStop content i)

def Untouched (content : Text) (rules : List Rule) (i : Nat) : Prop :=
  ∀ rule ∈ rules, ∀ m ∈ rule.pattern.scan content, Disjoint (reach m) (lineRange content i)

instance (content : Text) (rules : List Rule) (i : Nat) : Decidable (Untouched content rules i) :=
  inferInstanceAs (Decidable (∀ rule ∈ rules, ∀ m ∈ rule.pattern.scan content, Disjoint _ _))

variable {content : Text}

theorem length_text {p : Pattern} {m : Found} (hm : m ∈ p.scan content) :
    m.text.length = m.stop.index - m.index ∧ m.stop.index ≤ content.length := by
  obtain ⟨hText, hMatch⟩ := mem_scan hm
  obtain ⟨-, hStopText, hOrder⟩ := matchAt_onward hMatch
  have hOrder : m.first.index ≤ m.stop.index := hOrder
  have hStop : m.stop.index ≤ content.length := by
    have hLe := m.stop.index_le_length
    rwa [hStopText, hText] at hLe
  have hAfter := m.first.after_length
  rw [hText] at hAfter
  refine ⟨?_, hStop⟩
  rw [Found.text, Cursor.between, if_pos hOrder, List.length_take, hAfter, Found.index]
  omega

theorem touches_iff_not_disjoint {p : Pattern} {m : Found} (hm : m ∈ p.scan content) {i : Nat}
    (h : i < content.lines.length) :
    touches content m i = true ↔ ¬ Disjoint (reach m) (lineRange content i) := by
  obtain ⟨hLength, hStop⟩ := length_text hm
  have hFirst : m.index ≤ content.length := by
    obtain ⟨hText, -⟩ := mem_scan hm
    exact hText ▸ m.first.index_le_length
  simp only [touches, List.any_eq_true, List.mem_range'_1, beq_iff_eq, Finset.not_disjoint_iff,
    reach, lineRange, Finset.mem_Icc, hLength]
  constructor
  · rintro ⟨p, hp, hNumber⟩
    exact ⟨p, by omega, (lineNumber_eq_iff h (by omega)).mp hNumber⟩
  · rintro ⟨p, hp, hRange⟩
    exact ⟨p, by omega, (lineNumber_eq_iff h (by omega)).mpr hRange⟩

theorem isTouched_eq_false_iff {rules : List Rule} {i : Nat} (h : i < content.lines.length) :
    isTouched content rules i = false ↔ Untouched content rules i := by
  simp only [isTouched, Untouched, List.any_eq_false]
  refine forall₂_congr fun rule _ => ?_
  rw [Bool.not_eq_true, List.any_eq_false]
  refine forall₂_congr fun m hm => ?_
  rw [touches_iff_not_disjoint hm h, not_not]

/-- What is left are, in their order, just the lines that no match of any rule has a place in common
with, each line standing from after the newline before it up to its own newline or the end of the text.
The order of the rules makes no difference. -/
theorem uncovered_untouched (content : Text) (rules : List Rule) :
    uncovered content rules =
      ofLines ((content.lines.zipIdx.filter fun entry => Untouched content rules entry.2).map (·.1)) ∧
    (∀ i line, content.lines[i]? = some line →
      StandsAt content line (lineFirst content i) (lineStop content i)) ∧
    ∀ others, others.Perm rules → uncovered content others = uncovered content rules := by
  have hLines (rules : List Rule) : uncovered content rules =
      ofLines ((content.lines.zipIdx.filter fun entry =>
        Untouched content rules entry.2).map (·.1)) := by
    rw [uncovered, uncoveredLines_eq]
    congr 2
    apply List.filter_congr
    intro entry hEntry
    obtain ⟨line, i⟩ := entry
    have hi : i < content.lines.length :=
      (List.getElem?_eq_some_iff.mp (List.mem_zipIdx_iff_getElem?.mp hEntry)).1
    rw [Bool.eq_iff_iff, Bool.not_eq_true', decide_eq_true_eq]
    exact isTouched_eq_false_iff hi
  refine ⟨hLines rules, fun i line hLine => standsAt_of_getElem? hLine, fun others hPerm => ?_⟩
  have hSame (i : Nat) : Untouched content others i ↔ Untouched content rules i := by
    simp only [Untouched, hPerm.mem_iff]
  rw [hLines others, hLines rules]
  simp only [hSame]

def numerals : Text := ofString "one\ntwo\nthree\n\nfive\n"

/-- Its match begins on one line and ends on the next. -/
def spanning : Rule := Rule.ofKernel "o\\nt" "Line end" .unknown .error

/-- Its match reads nothing and stands at the end of the text. -/
def ending : Rule := Rule.ofKernel "$" "End" .unknown .error

theorem uncovered_untouched_spanning :
    uncovered numerals [ending, spanning] = ofString "one\n\nfive" ∧
    StandsAt numerals (ofString "five") 15 19 := by
  obtain ⟨hLeft, hStands, hOrder⟩ := uncovered_untouched numerals [spanning, ending]
  constructor
  · rw [hOrder [ending, spanning] (.swap _ _ _), hLeft]
    decide +kernel
  · have hFirst : lineFirst numerals 4 = 15 := by decide +kernel
    have hStop : lineStop numerals 4 = 19 := by decide +kernel
    have hFive := hStands 4 (ofString "five") (by decide +kernel)
    rwa [hFirst, hStop] at hFive

end LogTriage.Coverage
