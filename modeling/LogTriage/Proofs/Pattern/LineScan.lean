import LogTriage.Proofs.Pattern.Locality
import LogTriage.Proofs.Text.Lines

/-! # Scanning line by line

A pattern that stays on its line finds in a text what it finds on the lines taken one after the other.
The step from the end of a line leads to the start of the next, so an empty match there changes nothing.
-/

namespace LogTriage.Pattern

set_option autoImplicit false

def staysOnLine (p : Pattern) : Bool := !p.flags.unicode && p.tree.staysOnLine p.flags

/-- The start of what stands below a line. -/
def Margin.next (e : Margin) (line : Text) : Option Cursor :=
  match e.below with
  | [] => none
  | u :: rest => some ⟨u :: (line.reverse ++ e.above), rest, _, rfl⟩

variable {p : Pattern} (e : Margin)

/-! ## One line -/

theorem matchAt_within (hStay : p.staysOnLine = true) (c : Cursor) :
    matchAt p (c.within e) = (matchAt p c).map (Found.within e) := by
  simp only [staysOnLine, Bool.and_eq_true, Bool.not_eq_true'] at hStay
  have hOpening : opening p (c.within e) = (opening p c).within e := rfl
  rw [matchAt_eq_head?, matchAt_eq_head?, hOpening, Matcher.outcomes_within e hStay.1 hStay.2,
    List.head?_map, Option.map_map, Option.map_map]
  rfl

theorem stepOver_within (hStay : p.staysOnLine = true) (c : Cursor) :
    stepOver p (c.within e) = ((stepOver p c).map (Cursor.within e)).or (e.next c.text) := by
  simp only [staysOnLine, Bool.and_eq_true, Bool.not_eq_true'] at hStay
  rw [stepOver, stepOver, hStay.1]
  cases hRead : c.readForward false with
  | some found =>
    obtain ⟨x, next⟩ := found
    rw [Cursor.readForward_within e hRead]
    rfl
  | none =>
    cases hAfter : c.after with
    | cons u rest => simp [Cursor.readForward, Cursor.advance, hAfter] at hRead
    | nil =>
      have hText : c.text.reverse = c.before := by simp [Cursor.text, hAfter]
      cases hBelow : e.below with
      | nil => simp [Margin.next, Cursor.readForward, Cursor.advance, Cursor.within, hAfter, hBelow]
      | cons u rest =>
        simp [Margin.next, Cursor.readForward, Cursor.advance, Cursor.within, hAfter, hBelow, hText,
          Cursor.ext_iff_parts]

theorem find_within (hStay : p.staysOnLine = true) (c : Cursor) :
    find p (c.within e) =
      ((find p c).map (Found.within e)).or ((e.next c.text).bind (find p)) := by
  induction hLength : c.after.length using Nat.strongRecOn generalizing c with
  | ind n ih =>
    rw [find_eq, find_eq p c, matchAt_within e hStay, stepOver_within e hStay]
    cases matchAt p c with
    | some m => rfl
    | none =>
      cases hStep : stepOver p c with
      | none => rfl
      | some next =>
        obtain ⟨hOn, hIndex⟩ := stepOver_onward hStep
        have hLess : next.after.length < c.after.length := hOn.ahead_length_lt (by omega)
        have hText : next.text = c.text := hOn.1
        simp only [Option.map_none, Option.map_some, Option.none_or, Option.some_or,
          Option.bind_some]
        rw [ih next.after.length (hLength ▸ hLess) next rfl, hText]

theorem resume_within (hStay : p.staysOnLine = true) (m : Found) :
    resume (stepOver p) (m.within e) =
      ((resume (stepOver p) m).map (Cursor.within e)).or (e.next m.stop.text) := by
  have hEmpty : (m.within e).isEmpty = m.isEmpty := by
    rw [Bool.eq_iff_iff]
    simp [Found.isEmpty, Found.within, Cursor.index_within]
  rw [resume, resume, hEmpty]
  split_ifs
  · exact stepOver_within e hStay m.stop
  · rfl

/-! ## One line and what follows -/

def EnumeratesFrom (p : Pattern) (place : Option Cursor) (ms : List Found) : Prop :=
  match place with
  | none => ms = []
  | some c => Enumerates p c ms

theorem Enumerates.of_find {c : Cursor} {m : Found} {ms : List Found} (h : find p c = some m)
    (hMore : EnumeratesFrom p (resume (stepOver p) m) ms) : Enumerates p c (m :: ms) := by
  cases hNext : resume (stepOver p) m with
  | none =>
    rw [hNext] at hMore
    obtain rfl : ms = [] := hMore
    exact .last h hNext
  | some next =>
    rw [hNext] at hMore
    exact .more h hNext hMore

theorem EnumeratesFrom.of_find_eq {c : Cursor} {place : Option Cursor} {ms : List Found}
    (h : find p c = place.bind (find p)) (hMore : EnumeratesFrom p place ms) :
    Enumerates p c ms := by
  cases place with
  | none =>
    obtain rfl : ms = [] := hMore
    exact .done h
  | some d =>
    have h : find p c = find p d := h
    cases hMore with
    | done hFind => exact .done (h.trans hFind)
    | last hFind hStop => exact .last (h.trans hFind) hStop
    | more hFind hNext hMore => exact .more (h.trans hFind) hNext hMore

theorem Enumerates.within (hStay : p.staysOnLine = true) {c : Cursor} {ms more : List Found}
    (h : Enumerates p c ms) (hMore : EnumeratesFrom p (e.next c.text) more) :
    Enumerates p (c.within e) (ms.map (Found.within e) ++ more) := by
  have hStop {c : Cursor} {m : Found} (h : find p c = some m) : m.stop.text = c.text := by
    obtain ⟨hOn, hMatch⟩ := find_some h
    exact (matchAt_onward hMatch).2.1.trans hOn.1
  -- The last match of the line and a place without any both go over to the next line.
  induction h with
  | @done c hFind =>
    refine hMore.of_find_eq ?_
    rw [find_within e hStay, hFind]
    rfl
  | @last c m hFind hLast =>
    refine .of_find (by rw [find_within e hStay, hFind]; rfl) ?_
    rw [resume_within e hStay, hLast, hStop hFind]
    exact hMore
  | @more c next m ms hFind hNext _ ih =>
    have hText : next.text = c.text := (resume_onward hFind hNext).2.2.1
    refine .of_find (by rw [find_within e hStay, hFind]; rfl) ?_
    rw [resume_within e hStay, hNext]
    exact ih (hText ▸ hMore)

/-! ## All lines -/

/-- What stands around line `k` of some lines. -/
def Margin.around (lines : List Text) (k : Nat) : Margin where
  above := (lines.take k).reverse.flatMap fun line => Text.newline :: line.reverse
  below := (lines.drop (k + 1)).flatMap (Text.newline :: ·)
  above_head := by cases (lines.take k).reverse <;> simp
  below_head := by cases lines.drop (k + 1) <;> simp

theorem drop_succ {lines rest : List Text} {line : Text} {k : Nat}
    (h : lines.drop k = line :: rest) : lines.drop (k + 1) = rest := by
  rw [← List.tail_drop, h, List.tail_cons]

theorem around_next (lines : List Text) {line : Text} {rest : List Text} {k : Nat}
    (hDrop : lines.drop k = line :: rest) :
    (Margin.around lines k).next line =
      rest.head?.map fun next => (Cursor.start next).within (.around lines (k + 1)) := by
  have hRest := drop_succ hDrop
  have hLine : lines[k]? = some line := by
    rw [← List.head?_drop, hDrop, List.head?_cons]
  have hTake : (lines.take (k + 1)).reverse = line :: (lines.take k).reverse := by
    rw [List.take_add_one, hLine, Option.toList_some, List.reverse_append]
    rfl
  cases rest with
  | nil => simp [Margin.next, Margin.around, hRest]
  | cons next rest =>
    have hAfter := drop_succ hRest
    simp only [Margin.next, Margin.around, hRest, List.flatMap_cons, List.cons_append,
      List.head?_cons, Option.map_some, Option.some.injEq, Cursor.ext_iff_parts, Cursor.within,
      Cursor.start, hTake, hAfter, List.nil_append, and_self]

theorem enumerates_lines (hStay : p.staysOnLine = true) (lines rest : List Text) (line : Text)
    (k : Nat) (hDrop : lines.drop k = line :: rest) :
    Enumerates p ((Cursor.start line).within (.around lines k))
      (((line :: rest).zipIdx k).flatMap fun entry =>
        (scan p entry.1).map (Found.within (.around lines entry.2))) := by
  induction rest generalizing line k with
  | nil =>
    rw [List.zipIdx_cons, List.flatMap_cons]
    refine (enumerates_scan p line).within _ hStay ?_
    rw [Cursor.text_start, around_next lines hDrop]
    rfl
  | cons next rest ih =>
    rw [List.zipIdx_cons, List.flatMap_cons]
    refine (enumerates_scan p line).within _ hStay ?_
    rw [Cursor.text_start, around_next lines hDrop]
    exact ih next (k + 1) (drop_succ hDrop)

/-- The matches in a text are those on its lines. -/
theorem scan_ofLines (hStay : p.staysOnLine = true) {lines : List Text} (hSome : lines ≠ []) :
    scan p (Text.ofLines lines) =
      lines.zipIdx.flatMap fun entry =>
        (scan p entry.1).map (Found.within (.around lines entry.2)) := by
  cases lines with
  | nil => exact absurd rfl hSome
  | cons line rest =>
    have hStart : (Cursor.start line).within (.around (line :: rest) 0) =
        Cursor.start (Text.ofLines (line :: rest)) := by
      simp [Cursor.within, Cursor.start, Margin.around, Text.ofLines_cons]
    have hAll := enumerates_lines hStay (line :: rest) rest line 0 rfl
    rw [hStart] at hAll
    exact hAll.eq_scan.symm

/-! ## Places on a line -/

theorem take_text (c : Cursor) : c.text.take c.index = c.before.reverse := by
  rw [Cursor.text, c.index_eq, ← List.length_reverse, List.take_left]

theorem drop_text (c : Cursor) : c.text.drop c.index = c.after := by
  rw [Cursor.text, c.index_eq, ← List.length_reverse, List.drop_left]

theorem lineNumber_text (c : Cursor) :
    Text.lineNumber c.text c.index = c.before.count Text.newline := by
  rw [Text.lineNumber, take_text, List.count_reverse]

theorem lineAt_text (c : Cursor) :
    Text.lineAt c.text c.index =
      (c.before.takeWhile (· != Text.newline)).reverse ++
        c.after.takeWhile (· != Text.newline) := by
  rw [Text.lineAt, take_text, drop_text, List.reverse_reverse]

theorem lineAt_within {c : Cursor} (hFree : Text.newline ∉ c.text) :
    Text.lineAt (c.within e).text (c.within e).index = c.text := by
  rw [Cursor.text, List.mem_append, List.mem_reverse, not_or] at hFree
  rw [lineAt_text, Cursor.within, Text.takeWhile_append hFree.1 e.above_head,
    Text.takeWhile_append hFree.2 e.below_head]
  rfl

theorem lineAt_self {c : Cursor} (hFree : Text.newline ∉ c.text) :
    Text.lineAt c.text c.index = c.text := by
  have hAlone := lineAt_within ⟨[], [], by simp, by simp⟩ hFree
  simpa [Cursor.text, Cursor.within] using hAlone

variable {lines : List Text} {line : Text} {k : Nat} {c : Cursor}

theorem text_within_around (hLine : lines[k]? = some line) (hText : c.text = line) :
    (c.within (.around lines k)).text = Text.ofLines lines := by
  obtain ⟨hk, hGet⟩ := List.getElem?_eq_some_iff.mp hLine
  have hSplit : lines.take k ++ line :: lines.drop (k + 1) = lines := by
    rw [← hGet, ← List.drop_eq_getElem_cons hk, List.take_append_drop]
  have hAll := Text.ofLines_append_cons (lines.take k) line (lines.drop (k + 1))
  rw [hSplit] at hAll
  rw [Cursor.text_within, hText, hAll, Margin.around, List.reverse_flatMap, List.reverse_reverse,
    List.append_assoc]
  simp [Function.comp_def]

theorem lineNumber_within_around (hFree : ∀ l ∈ lines, Text.newline ∉ l)
    (hLine : lines[k]? = some line) (hText : c.text = line) :
    Text.lineNumber (Text.ofLines lines) (c.within (.around lines k)).index = k := by
  have hBefore : c.before.count Text.newline = 0 := by
    refine List.count_eq_zero.mpr fun hMem => hFree line (List.mem_of_getElem? hLine) ?_
    rw [← hText, Cursor.text, List.mem_append, List.mem_reverse]
    exact .inl hMem
  have hAbove (done : List Text) (hDone : ∀ l ∈ done, Text.newline ∉ l) :
      (done.flatMap fun l => Text.newline :: l.reverse).count Text.newline = done.length := by
    induction done with
    | nil => rfl
    | cons l done ih =>
      have hLine : l.reverse.count Text.newline = 0 := by
        rw [List.count_reverse]
        exact List.count_eq_zero.mpr (hDone l List.mem_cons_self)
      rw [List.flatMap_cons, List.cons_append, List.count_cons_self, List.count_append, hLine,
        ih fun l hl => hDone l (List.mem_cons_of_mem _ hl), List.length_cons, Nat.zero_add]
  obtain ⟨hk, -⟩ := List.getElem?_eq_some_iff.mp hLine
  rw [← text_within_around hLine hText, lineNumber_text, Cursor.within, List.count_append, hBefore,
    Margin.around, hAbove _ fun l hl => hFree l (List.mem_of_mem_take (List.mem_reverse.mp hl)),
    List.length_reverse, List.length_take_of_le (Nat.le_of_lt hk), Nat.zero_add]

/-! ## What the matches show -/

/-- Where a match begins, what it reads and what its groups have read. -/
def Found.shown (m : Found) : Nat × Text × List (Option Text) := (m.index, m.text, m.groups)

theorem length_above_around (lines : List Text) (k : Nat) :
    (Margin.around lines k).above.length = Text.extent (lines.take k) := by
  have hReverse : (Margin.around lines k).above.reverse =
      (lines.take k).flatMap (· ++ [Text.newline]) := by
    rw [Margin.around, List.reverse_flatMap, List.reverse_reverse]
    simp [Function.comp_def]
  rw [← List.length_reverse, hReverse, Text.extent_eq_length]

theorem shown_within {m : Found} (hm : m ∈ scan p line) :
    (m.within e).shown = (e.above.length + m.index, m.text, m.groups) := by
  have hText : (m.within e).text = m.text :=
    Cursor.between_within e (matchAt_onward (mem_scan hm).2).2
  have hIndex : (m.within e).index = e.above.length + m.index :=
    (Cursor.index_within e m.first).trans (Nat.add_comm _ _)
  rw [Found.shown, hText, hIndex]
  rfl

/-- Each line has its own matches, moved to where the line begins. -/
theorem scan_lines (hStay : p.staysOnLine = true) (t : Text) :
    (scan p t).map Found.shown = t.lines.zipIdx.flatMap fun entry =>
      (scan p entry.1).map fun m => (Text.lineFirst t entry.2 + m.index, m.text, m.groups) := by
  have hScan := scan_ofLines hStay (Text.lines_ne_nil t)
  rw [Text.ofLines_lines] at hScan
  rw [hScan, List.map_flatMap]
  apply List.flatMap_congr
  intro entry _
  rw [List.map_map]
  apply List.map_congr_left
  intro m hm
  rw [Function.comp_apply, shown_within _ hm, length_above_around]
  rfl

end LogTriage.Pattern
