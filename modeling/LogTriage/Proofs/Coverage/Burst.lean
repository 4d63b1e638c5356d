import LogTriage.Proofs.Coverage
import LogTriage.Proofs.Pattern.Leftmost
import LogTriage.Proofs.Rule.RegisterDump

/-! # Bursts of register lines

However many register lines follow a header, one match takes them all. It begins with the first header of the
text and ends with the last register line, so none of these lines is left over.
-/

namespace LogTriage

set_option autoImplicit false

open Pattern RegisterDump
open Text (newline)

/-- A text whose first header is followed by register lines. -/
structure Burst where
  above : Text
  dumps : List Text
  below : Text
  above_free : ¬ header <:+: above
  isDump : ∀ t ∈ dumps, IsDump t
  below_head : ∀ u ∈ below.head?, u = newline
  below_none : ∀ line ∈ below.lines.tail.head?, ¬ HoldsRegister line

namespace Burst

def read (b : Burst) : Text := header ++ b.dumps.flatMap (newline :: ·)

def text (b : Burst) : Text := b.above ++ (b.read ++ b.below)

def linesAbove (b : Burst) : List Text := b.above.lines.dropLast

/-- The line that ends with the header, and the register lines. -/
def lines (b : Burst) : List Text := (b.above.lines.getLastD [] ++ header) :: b.dumps

def linesBelow (b : Burst) : List Text := b.below.lines.tail

variable {b : Burst}

/-! ## The first header -/

/-- No end of the header is also a front of it, so two headers never overlap. -/
theorem length_le_of_header {above x y rest : Text} (hFree : ¬ header <:+: above)
    (h : x ++ (header ++ y) = above ++ (header ++ rest)) : above.length ≤ x.length := by
  have hBorders : ∀ n < header.length, 0 < n → ¬ header.drop n <+: header := by decide +kernel
  rcases List.append_eq_append_iff.mp h with ⟨c, rfl, hHeader⟩ | ⟨c, rfl, -⟩
  · rcases List.append_eq_append_iff.mp hHeader with ⟨d, rfl, -⟩ | ⟨d, hSplit, hRest⟩
    · exact absurd ⟨x, d, by rw [List.append_assoc]⟩ hFree
    · -- The second header begins `c.length` places behind the first.
      have hLength : header.length = c.length + d.length := by rw [hSplit, List.length_append]
      by_contra hLess
      have hFront : header.drop c.length <+: header := by
        rw [hSplit, List.drop_left]
        exact List.prefix_of_prefix_length_le ⟨y, hRest.symm⟩ (hSplit ▸ List.prefix_append _ rest) (by simp)
      rw [List.length_append] at hLess
      refine hBorders c.length ?_ (by omega) hFront
      have hSome : d ≠ [] := by
        rintro rfl
        exact hFree ⟨x, [], by rw [hSplit]; simp⟩
      have hPositive := List.length_pos_iff.mpr hSome
      omega
  · simp

theorem flags_eq : Rule.acaBurst.pattern.flags = {} := by rw [acaBurst_eq]

theorem opening_eq (c : Cursor) : opening Rule.acaBurst.pattern c = ⟨c, []⟩ := by
  rw [acaBurst_eq]
  rfl

theorem outcomes_eq (s : State) : Matcher.outcomes {} Rule.acaBurst.pattern.tree .forward s =
    (Matcher.outcomes {} (.ofPieces (Tree.word header)) .forward s).flatMap
      (Matcher.outcomes {} dump .forward) := by
  rw [acaBurst_eq]
  exact Matcher.outcomes_ofPieces_append _ _ s

theorem mem_outcomes_header {s s' : State} :
    s' ∈ Matcher.outcomes {} (.ofPieces (Tree.word header)) .forward s ↔
      ∃ rest, s.cursor.after = header ++ rest ∧ s' = s.past header rest := by
  rw [RegisterDump.mem_outcomes_iff (by decide +kernel)]
  constructor
  · rintro ⟨_, rest, hAfter, hReads, rfl⟩
    obtain rfl := (Tree.reads_word rfl header).mp hReads
    exact ⟨rest, hAfter, rfl⟩
  · rintro ⟨rest, hAfter, rfl⟩
    exact ⟨header, rest, hAfter, (Tree.reads_word rfl header).mpr rfl, rfl⟩

theorem header_of_matchAt {c : Cursor} {m : Found} (h : matchAt Rule.acaBurst.pattern c = some m) :
    ∃ rest, c.after = header ++ rest := by
  obtain ⟨s, hs, -⟩ := mem_outcomes_of_matchAt h
  rw [flags_eq, opening_eq, outcomes_eq] at hs
  obtain ⟨a, ha, -⟩ := List.mem_flatMap.mp hs
  obtain ⟨rest, hAfter, -⟩ := mem_outcomes_header.mp ha
  exact ⟨rest, hAfter⟩

/-- From a header on, the tree first reads the header and the register lines behind it. -/
theorem head?_outcomes (b : Burst) {s : State} (hAfter : s.cursor.after = b.read ++ b.below) :
    (Matcher.outcomes {} Rule.acaBurst.pattern.tree .forward s).head? = some (s.past b.read b.below) := by
  have hSplit : s.cursor.after = header ++ (b.dumps.flatMap (newline :: ·) ++ b.below) := by
    rw [hAfter, read, List.append_assoc]
  obtain ⟨a, more, hMore⟩ :=
    List.exists_cons_of_ne_nil (List.ne_nil_of_mem (mem_outcomes_header.mpr ⟨_, hSplit, rfl⟩))
  obtain ⟨rest, hRest, hFirst⟩ := mem_outcomes_header.mp (hMore ▸ List.mem_cons_self)
  obtain rfl := List.append_cancel_left (hSplit.symm.trans hRest)
  have hDump := head?_dump b.isDump b.below_head b.below_none (s := a) (by rw [hFirst]; rfl)
  rw [outcomes_eq, hMore, List.flatMap_cons, List.head?_append, hDump, Option.some_or, hFirst,
    State.past_past, read]

/-- Where the header stands, the match takes the register lines behind it. -/
theorem matchAt_header (b : Burst) :
    ∃ m, matchAt Rule.acaBurst.pattern (.place b.text b.above.length) = some m ∧
      m.index = b.above.length ∧ m.stop.index = b.above.length + b.read.length ∧ m.text = b.read := by
  have hAfter : (Cursor.place b.text b.above.length).after = b.read ++ b.below := by
    rw [Cursor.place, text, List.drop_left]
  have hIndex : (Cursor.place b.text b.above.length).index = b.above.length := by
    simp [Cursor.place, text]
  generalize Cursor.place b.text b.above.length = c at hAfter hIndex ⊢
  refine ⟨.ofState c ((State.mk c []).past b.read b.below), ?_, hIndex, ?_, ?_⟩
  · rw [matchAt_eq_head?, flags_eq, opening_eq, b.head?_outcomes (s := ⟨c, []⟩) hAfter]
    rfl
  · rw [Found.ofState, State.past, ← hIndex]
  · exact State.between_past (s := ⟨c, []⟩) hAfter

theorem scan_eq (b : Burst) :
    ∃ m more, Rule.acaBurst.pattern.scan b.text = m :: more ∧ m.index = b.above.length ∧
      m.stop.index = b.above.length + b.read.length ∧ m.text = b.read := by
  obtain ⟨m, hMatch, hPlace⟩ := b.matchAt_header
  have hWithin : b.above.length ≤ b.text.length := by simp [text]
  obtain ⟨more, hScan⟩ := scan_eq_cons (by rw [flags_eq]) hWithin hMatch fun j hj => by
    by_contra hSome
    obtain ⟨n, hn⟩ := Option.ne_none_iff_exists'.mp hSome
    obtain ⟨rest, hRest⟩ := header_of_matchAt hn
    have hSplit : b.text.take j ++ (header ++ rest) =
        b.above ++ (header ++ (b.dumps.flatMap (newline :: ·) ++ b.below)) := by
      rw [← List.append_assoc header, ← read, ← text, ← hRest]
      exact List.take_append_drop j b.text
    have hLe := length_le_of_header b.above_free hSplit
    rw [List.length_take] at hLe
    omega
  exact ⟨m, more, hScan, hPlace⟩

/-! ## Its lines -/

theorem header_free : newline ∉ header := by decide +kernel

theorem lines_dumps (b : Burst) : Text.lines (b.dumps.flatMap (newline :: ·) ++ b.below) =
    [] :: (b.dumps ++ b.linesBelow) := by
  have hFree : ∀ t ∈ b.dumps, newline ∉ t := fun t ht => (b.isDump t ht).1
  revert hFree
  generalize b.dumps = dumps
  intro hFree
  induction dumps with
  | nil =>
    cases hBelow : b.below with
    | nil => simp [linesBelow, hBelow, Text.lines]
    | cons u rest =>
      have hNewline : u = newline := b.below_head u (by simp [hBelow])
      simp [linesBelow, hBelow, hNewline, Text.lines_newline_cons]
  | cons t dumps ih =>
    obtain ⟨hFirst, hFree⟩ := List.forall_mem_cons.mp hFree
    have hLines := Text.lines_append_of_free hFirst (ih hFree)
    rw [List.flatMap_cons, List.append_assoc, List.cons_append, Text.lines_newline_cons, hLines,
      List.append_nil, List.cons_append]

theorem lines_text (b : Burst) : b.text.lines = b.linesAbove ++ b.lines ++ b.linesBelow := by
  have hHeader := Text.lines_append_of_free header_free b.lines_dumps
  rw [text, read, List.append_assoc, Text.lines_append, hHeader]
  simp [linesAbove, lines]

theorem length_linesAbove (b : Burst) : b.linesAbove.length = b.above.count newline := by
  rw [linesAbove, List.length_dropLast, Text.length_lines, Nat.add_sub_cancel]

theorem lineNumber_first (b : Burst) : Text.lineNumber b.text b.above.length = b.linesAbove.length := by
  rw [Text.lineNumber, text, List.take_left, length_linesAbove]

theorem count_read (b : Burst) : b.read.count newline = b.dumps.length := by
  have hOne : b.dumps.map (List.count newline ∘ (newline :: ·)) = b.dumps.map fun _ => 1 := by
    apply List.map_congr_left
    intro t ht
    rw [Function.comp_apply, List.count_cons_self, List.count_eq_zero_of_not_mem (b.isDump t ht).1]
  rw [read, List.count_append, List.count_eq_zero_of_not_mem header_free, Nat.zero_add, List.count_flatMap,
    hOne, List.map_const', List.sum_replicate_nat, Nat.mul_one]

/-- The last place of the match is not a newline. -/
theorem exists_read_eq (b : Burst) : ∃ init u, b.read = init ++ [u] ∧ u ≠ newline := by
  rcases List.eq_nil_or_concat b.dumps with hNone | ⟨dumps, t, hDumps⟩
  · refine ⟨header.dropLast, Text.unit 'd', ?_, by decide⟩
    rw [read, hNone]
    decide +kernel
  · obtain ⟨hFree, v, r, x, rfl, -, hSome, -⟩ := b.isDump t (by simp [hDumps])
    obtain ⟨y, u, rfl⟩ := (List.eq_nil_or_concat x).resolve_left hSome
    refine ⟨header ++ (dumps.flatMap (newline :: ·) ++ newline :: (v ++ (r.text ++ y))), u, ?_, ?_⟩
    · simp [read, hDumps]
    · rintro rfl
      simp at hFree

theorem lineNumber_last (b : Burst) :
    Text.lineNumber b.text (b.above.length + (b.read.length - 1)) = b.linesAbove.length + b.dumps.length := by
  obtain ⟨init, u, hRead, hu⟩ := b.exists_read_eq
  have hInit : init.count newline = b.dumps.length := by
    rw [← b.count_read, hRead, List.count_append, List.count_singleton]
    simp [hu]
  have hLength : b.read.length - 1 = init.length := by rw [hRead]; simp
  rw [Text.lineNumber, text, hLength, List.take_length_add_append, hRead, List.append_assoc, List.take_left,
    List.count_append, hInit, length_linesAbove]

/-- The first match begins with the first header and ends with the last register line. Under all rules that
have this one among them, the line of the header and the register lines are not left over. -/
theorem covered_whole (b : Burst) :
    (∃ m more, Rule.acaBurst.pattern.scan b.text = m :: more ∧ m.index = b.above.length ∧
      m.stop.index = b.above.length + b.read.length ∧ m.text = b.read) ∧
    b.text.lines = b.linesAbove ++ b.lines ++ b.linesBelow ∧
    ∀ rules, Rule.acaBurst ∈ rules → Coverage.uncovered b.text rules =
      Text.ofLines (((b.linesAbove.zipIdx ++
        b.linesBelow.zipIdx (b.linesAbove.length + b.lines.length)).filter fun entry =>
          !Coverage.isCovered (Coverage.lineSpans b.text rules) entry.2).map (·.1)) := by
  refine ⟨b.scan_eq, b.lines_text, ?_⟩
  intro rules hRule
  have hTouched : ∀ entry ∈ b.lines.zipIdx b.linesAbove.length,
      Coverage.isCovered (Coverage.lineSpans b.text rules) entry.2 = true := by
    intro entry hEntry
    obtain ⟨m, more, hScan, hIndex, hStop, -⟩ := b.scan_eq
    obtain ⟨hFirst, hLast, -⟩ := List.mem_zipIdx hEntry
    rw [lines, List.length_cons] at hLast
    rw [Coverage.isCovered_lineSpans]
    refine List.any_eq_true.mpr ⟨_, hRule, List.any_eq_true.mpr ⟨m, by simp [hScan], ?_⟩⟩
    have hLength : m.stop.index - m.index - 1 = b.read.length - 1 := by omega
    rw [Coverage.touches_iff, Coverage.touched, hLength, hIndex, b.lineNumber_first, b.lineNumber_last]
    omega
  have hNone : (b.lines.zipIdx b.linesAbove.length).filter (fun entry =>
      !Coverage.isCovered (Coverage.lineSpans b.text rules) entry.2) = [] := by
    rw [List.filter_eq_nil_iff]
    intro entry hEntry
    simp [hTouched entry hEntry]
  rw [Coverage.uncovered, Coverage.uncoveredLines, Coverage.outside, b.lines_text, List.zipIdx_append, List.zipIdx_append,
    List.filter_append, List.filter_append, Nat.zero_add, hNone, List.append_nil, ← List.filter_append,
    Nat.zero_add, List.length_append]

/-- One register line names a register in the index of another, one has two registers, and the line below
names a register without a value. -/
def nested : Burst where
  above := Text.ofString "up\namdgpu: "
  dumps :=
    [Text.ofString "aca entry[ACA[00].STATUS=0x0f", Text.ofString "ACA[01].ADDR=0x0 ACA[02].MISC0=0xACA0"]
  below := Text.ofString "\naca entry[03] cleared\ndone"
  above_free := by decide +kernel
  isDump := by
    simp only [List.forall_mem_cons, List.not_mem_nil, false_implies, implies_true, and_true]
    refine ⟨⟨by decide, [], ⟨Text.ofString "aca entry", Text.ofString "ACA[00", Text.ofString "STATUS"⟩,
      Text.ofString "0f", by decide, ⟨by decide, by decide, by decide⟩, by decide⟩, by decide,
      Text.ofString "ACA[01].ADDR=0x0 ", ⟨Text.ofString "ACA", Text.ofString "02", Text.ofString "MISC0"⟩,
      Text.ofString "ACA0", by decide, ⟨by decide, by decide, by decide⟩, by decide⟩
  below_head := by decide
  below_none := by
    rintro line hLine hHolds
    have hLines : (Text.ofString "\naca entry[03] cleared\ndone").lines.tail.head? =
        some (Text.ofString "aca entry[03] cleared") := by decide +kernel
    obtain rfl : Text.ofString "aca entry[03] cleared" = line := Option.some.inj (hLines.symm.trans hLine)
    exact absurd hHolds.equals_mem (by decide)

theorem covered_whole_nested : Rule.acaBurst ∈ [Rule.outOfMemory, Rule.acaBurst] ∧
    Coverage.uncovered nested.text [Rule.outOfMemory, Rule.acaBurst] =
      Text.ofString "up\naca entry[03] cleared\ndone" := by
  have hRule : Rule.acaBurst ∈ [Rule.outOfMemory, Rule.acaBurst] := by simp
  refine ⟨hRule, ?_⟩
  rw [nested.covered_whole.2.2 _ hRule]
  decide +kernel

end Burst
end LogTriage
