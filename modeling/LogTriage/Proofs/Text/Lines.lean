import LogTriage.Text
import Mathlib.Data.List.Basic

/-! # Lines by number

The number of the line that holds a position is the number of newlines before it. It grows with the
position by at most one at a time.
-/

namespace LogTriage

set_option autoImplicit false

namespace Text

def lineNumber (t : Text) (p : Nat) : Nat := (t.take p).count newline

theorem ofLines_cons (line : Text) (rest : List Text) :
    ofLines (line :: rest) = line ++ rest.flatMap (newline :: ·) := by
  induction rest generalizing line with
  | nil => simp [ofLines]
  | cons next rest ih =>
    rw [List.flatMap_cons, List.cons_append, ← ih]
    simp [ofLines, List.intercalate_cons_cons]

theorem ofLines_append_cons (lines : List Text) (line : Text) (rest : List Text) :
    ofLines (lines ++ line :: rest) =
      lines.flatMap (· ++ [newline]) ++ (line ++ rest.flatMap (newline :: ·)) := by
  induction lines with
  | nil => exact ofLines_cons line rest
  | cons first lines ih =>
    rw [List.cons_append, ofLines_cons, List.flatMap_cons, List.append_assoc, ← ih]
    cases lines <;> simp [ofLines_cons]

theorem newline_not_mem_of_mem_lines {t line : Text} (h : line ∈ lines t) : newline ∉ line := by
  induction t generalizing line with
  | nil => simp [lines] at h; simp [h]
  | cons u t ih =>
    by_cases hNewline : u = newline
    · rw [hNewline, lines_newline_cons] at h
      rcases List.mem_cons.mp h with rfl | h
      · exact List.not_mem_nil
      · exact ih h
    · cases hLines : lines t with
      | nil => exact absurd hLines (lines_ne_nil t)
      | cons first more =>
        rw [lines_cons hNewline hLines] at h
        rw [hLines] at ih
        rcases List.mem_cons.mp h with rfl | h
        · simpa [Ne.symm hNewline] using ih List.mem_cons_self
        · exact ih (List.mem_cons_of_mem _ h)

theorem lines_append_newline (t rest : Text) :
    lines (t ++ newline :: rest) = lines t ++ lines rest := by
  induction t with
  | nil => exact lines_newline_cons rest
  | cons u t ih =>
    rw [List.cons_append]
    by_cases hNewline : u = newline
    · rw [hNewline, lines_newline_cons, lines_newline_cons, ih, List.cons_append]
    · cases hLines : lines t with
      | nil => exact absurd hLines (lines_ne_nil t)
      | cons line more =>
        rw [hLines, List.cons_append] at ih
        rw [lines_cons hNewline hLines, lines_cons hNewline ih, List.cons_append]

/-- Text without a newline stands at the front of the first line. -/
theorem lines_append_of_free {line t first : Text} {more : List Text} (hFree : newline ∉ line)
    (h : lines t = first :: more) : lines (line ++ t) = (line ++ first) :: more := by
  induction line with
  | nil => exact h
  | cons u line ih =>
    rw [List.mem_cons, not_or] at hFree
    exact lines_cons (Ne.symm hFree.1) (ih hFree.2)

theorem lines_eq_singleton {line : Text} (hFree : newline ∉ line) : lines line = [line] := by
  simpa using lines_append_of_free hFree (rfl : lines [] = [[]])

/-- The last line of one text and the first line of the next become one. -/
theorem lines_append (t rest : Text) : lines (t ++ rest) =
    (lines t).dropLast ++ ((lines t).getLastD [] ++ (lines rest).headD []) :: (lines rest).tail := by
  obtain ⟨first, more, hRest⟩ := List.exists_cons_of_ne_nil (lines_ne_nil rest)
  rw [hRest, List.headD_cons, List.tail_cons]
  induction t with
  | nil => exact hRest
  | cons u t ih =>
    obtain ⟨line, ls, hLines⟩ := List.exists_cons_of_ne_nil (lines_ne_nil t)
    rw [hLines] at ih
    by_cases hNewline : u = newline
    · rw [List.cons_append, hNewline, lines_newline_cons, lines_newline_cons, ih, hLines]
      rfl
    · rw [lines_cons hNewline hLines]
      cases ls <;> exact lines_cons hNewline ih

/-- Where a newline ends each line, an empty one stands behind the last. -/
theorem lines_flatMap_newline {ls : List Text} (hFree : ∀ l ∈ ls, newline ∉ l) :
    lines (ls.flatMap (· ++ [newline])) = ls ++ [[]] := by
  induction ls with
  | nil => rfl
  | cons line ls ih =>
    obtain ⟨hLine, hRest⟩ := List.forall_mem_cons.mp hFree
    rw [List.flatMap_cons, List.append_assoc, List.singleton_append, lines_append_newline,
      lines_eq_singleton hLine, ih hRest, List.singleton_append, List.cons_append]

theorem takeWhile_append {t rest : Text} (hFree : newline ∉ t)
    (hHead : ∀ u ∈ rest.head?, u = newline) : (t ++ rest).takeWhile (· != newline) = t := by
  rw [List.takeWhile_append_of_pos fun u hu => by simpa using ne_of_mem_of_not_mem hu hFree]
  cases rest with
  | nil => simp
  | cons u rest => simp [hHead u rfl]

/-! ## Numbers from positions -/

theorem lineNumber_mono (t : Text) {p q : Nat} (h : p ≤ q) : lineNumber t p ≤ lineNumber t q :=
  (List.take_sublist_take_left h).count_le newline

theorem lineNumber_succ_le (t : Text) (p : Nat) : lineNumber t (p + 1) ≤ lineNumber t p + 1 := by
  rw [lineNumber, lineNumber, List.take_add_one, List.count_append]
  have hOne : (t[p]?.toList).count newline ≤ 1 := by
    cases t[p]? with
    | none => simp
    | some u => exact List.count_le_length
  omega

theorem lineNumber_succ {t : Text} {p : Nat} (h : t[p]? = some newline) :
    lineNumber t (p + 1) = lineNumber t p + 1 := by
  simp [lineNumber, List.take_add_one, h]

/-- Between two positions every line number in between occurs. -/
theorem exists_lineNumber_eq (t : Text) {p q k : Nat} (h : p ≤ q) (hLow : lineNumber t p ≤ k)
    (hHigh : k ≤ lineNumber t q) : ∃ x, p ≤ x ∧ x ≤ q ∧ lineNumber t x = k := by
  induction h with
  | refl => exact ⟨p, Nat.le_refl p, Nat.le_refl p, Nat.le_antisymm hLow hHigh⟩
  | @step q hq ih =>
    by_cases hLe : k ≤ lineNumber t q
    · obtain ⟨x, hpx, hxq, hEq⟩ := ih hLe
      exact ⟨x, hpx, Nat.le_succ_of_le hxq, hEq⟩
    · have hStep : lineNumber t q.succ ≤ lineNumber t q + 1 := lineNumber_succ_le t q
      exact ⟨q.succ, Nat.le_succ_of_le hq, Nat.le_refl _, by omega⟩

theorem lineNumber_eq_zero {line rest : Text} {p : Nat} (hFree : newline ∉ line)
    (h : p ≤ line.length) : lineNumber (line ++ rest) p = 0 := by
  rw [lineNumber, List.take_append_of_le_length h, List.count_eq_zero]
  exact fun hMem => hFree (List.mem_of_mem_take hMem)

theorem lineNumber_newline {line rest : Text} {p : Nat} (hFree : newline ∉ line)
    (h : line.length < p) :
    lineNumber (line ++ newline :: rest) p = lineNumber rest (p - (line.length + 1)) + 1 := by
  obtain ⟨n, rfl⟩ : ∃ n, p = line.length + (n + 1) := ⟨p - line.length - 1, by omega⟩
  have hSub : line.length + (n + 1) - (line.length + 1) = n := by omega
  rw [lineNumber, List.take_length_add_append, List.take_succ_cons, List.count_append,
    List.count_eq_zero_of_not_mem hFree, List.count_cons_self, hSub, Nat.zero_add]
  rfl

/-! ## Numbers and the places of lines -/

/-- The places that some lines take up, each with the newline after it. -/
def extent : List Text → Nat
  | [] => 0
  | line :: rest => line.length + 1 + extent rest

/-- Where line `i` begins. -/
def lineFirst (t : Text) (i : Nat) : Nat := extent (t.lines.take i)

/-- Where the newline of line `i` stands, or the text ends if there is none. -/
def lineStop (t : Text) (i : Nat) : Nat := lineFirst t i + (t.lines.getD i []).length

theorem extent_cons (line : Text) (rest : List Text) :
    extent (line :: rest) = line.length + 1 + extent rest := rfl

theorem extent_append (lines rest : List Text) :
    extent (lines ++ rest) = extent lines + extent rest := by
  induction lines with
  | nil => exact (Nat.zero_add _).symm
  | cons line lines ih =>
    rw [List.cons_append, extent_cons, extent_cons, ih]
    omega

theorem extent_eq_length (lines : List Text) :
    extent lines = (lines.flatMap (· ++ [newline])).length := by
  induction lines with
  | nil => rfl
  | cons line lines ih =>
    rw [extent_cons, ih, List.flatMap_cons, List.length_append, List.length_append, List.length_singleton]

/-- A position is on line `i` or below it when it is not before its first place. -/
theorem le_lineNumber_ofLines {lines : List Text} (hFree : ∀ l ∈ lines, newline ∉ l) {i : Nat}
    (h : i < lines.length) (p : Nat) :
    i ≤ lineNumber (ofLines lines) p ↔ extent (lines.take i) ≤ p := by
  induction lines generalizing i p with
  | nil => simp at h
  | cons line rest ih =>
    cases i with
    | zero => simp [extent]
    | succ i =>
      have hLine := hFree line List.mem_cons_self
      have hRest : i < rest.length := Nat.lt_of_succ_lt_succ h
      obtain ⟨next, more, rfl⟩ : ∃ next more, rest = next :: more :=
        List.exists_cons_of_length_pos (by omega)
      have hSplit : ofLines (line :: next :: more) = line ++ newline :: ofLines (next :: more) := by
        simp [ofLines_cons]
      rw [hSplit, List.take_succ_cons, extent_cons]
      by_cases hBelow : line.length < p
      · have hFree' : ∀ l ∈ next :: more, newline ∉ l :=
          fun l hl => hFree l (List.mem_cons_of_mem _ hl)
        have hInner := ih hFree' hRest (p - (line.length + 1))
        rw [lineNumber_newline hLine hBelow, Nat.add_le_add_iff_right, hInner]
        omega
      · rw [lineNumber_eq_zero hLine (by omega)]
        omega

theorem le_lineNumber_iff {t : Text} {i : Nat} (h : i < t.lines.length) (p : Nat) :
    i ≤ lineNumber t p ↔ lineFirst t i ≤ p := by
  have hFree : ∀ l ∈ t.lines, newline ∉ l := fun l hl => newline_not_mem_of_mem_lines hl
  have hIff := le_lineNumber_ofLines hFree h p
  rwa [ofLines_lines] at hIff

theorem length_lines (t : Text) : t.lines.length = t.count newline + 1 := by
  induction t with
  | nil => rfl
  | cons u t ih =>
    by_cases hNewline : u = newline
    · rw [hNewline, lines_newline_cons, List.length_cons, ih, List.count_cons_self]
    · cases hLines : lines t with
      | nil => exact absurd hLines (lines_ne_nil t)
      | cons line more =>
        rw [hLines] at ih
        rw [lines_cons hNewline hLines, List.count_cons_of_ne hNewline]
        exact ih

theorem lineNumber_lt_length_lines (t : Text) (p : Nat) : lineNumber t p < t.lines.length := by
  have hCount : (t.take p).count newline ≤ t.count newline := (List.take_sublist p t).count_le newline
  rw [length_lines]
  exact Nat.lt_succ_of_le hCount

/-- `line` is a whole line of the text: from the start of the text or a newline before `first`, up to the
newline at `stop` or the end of the text. -/
structure StandsAt (t line : Text) (first stop : Nat) : Prop where
  first_le : first ≤ stop
  stop_le : stop ≤ t.length
  reads : (t.take stop).drop first = line
  free : newline ∉ line
  opens : first = 0 ∨ t[first - 1]? = some newline
  closes : stop = t.length ∨ t[stop]? = some newline

theorem standsAt_append {above line below : Text} (hFree : newline ∉ line)
    (hAbove : ∀ u ∈ above.getLast?, u = newline) (hBelow : ∀ u ∈ below.head?, u = newline) :
    StandsAt (above ++ (line ++ below)) line above.length (above.length + line.length) where
  first_le := Nat.le_add_right _ _
  stop_le := by
    simp only [List.length_append]
    omega
  reads := by rw [List.take_length_add_append, List.drop_left, List.take_left]
  free := hFree
  opens := by
    rcases List.eq_nil_or_concat above with rfl | ⟨init, u, rfl⟩
    · exact .inl rfl
    · right
      have hNewline : u = newline := hAbove u (by simp)
      simp [hNewline]
  closes := by
    cases below with
    | nil => exact .inl (by simp)
    | cons u below =>
      right
      have hNewline : u = newline := hBelow u rfl
      rw [← List.append_assoc, ← List.length_append]
      simp [hNewline]

theorem split_of_getElem? {t line : Text} {i : Nat} (h : t.lines[i]? = some line) :
    ∃ above below, t = above ++ (line ++ below) ∧ above.length = lineFirst t i ∧
      (∀ u ∈ above.getLast?, u = newline) ∧ ∀ u ∈ below.head?, u = newline := by
  obtain ⟨hi, hGet⟩ := List.getElem?_eq_some_iff.mp h
  have hSplit : t.lines.take i ++ line :: t.lines.drop (i + 1) = t.lines := by
    rw [← hGet, ← List.drop_eq_getElem_cons hi, List.take_append_drop]
  have hText := ofLines_append_cons (t.lines.take i) line (t.lines.drop (i + 1))
  rw [hSplit, ofLines_lines] at hText
  refine ⟨_, _, hText, (extent_eq_length _).symm, ?_, ?_⟩
  · rcases List.eq_nil_or_concat (t.lines.take i) with hNil | ⟨init, last, hLast⟩
    · simp [hNil]
    · simp [hLast]
  · cases t.lines.drop (i + 1) <;> simp

theorem lineStop_of_getElem? {t line : Text} {i : Nat} (h : t.lines[i]? = some line) :
    lineStop t i = lineFirst t i + line.length := by
  rw [lineStop, List.getD_eq_getElem?_getD, h, Option.getD_some]

theorem standsAt_of_getElem? {t line : Text} {i : Nat} (h : t.lines[i]? = some line) :
    StandsAt t line (lineFirst t i) (lineStop t i) := by
  obtain ⟨above, below, hText, hFirst, hAbove, hBelow⟩ := split_of_getElem? h
  have hFree := newline_not_mem_of_mem_lines (List.mem_of_getElem? h)
  have hStands := standsAt_append hFree hAbove hBelow
  rwa [← hText, hFirst, ← lineStop_of_getElem? h] at hStands

/-- Around a position of line `i` stands this line. -/
theorem lineAt_of_getElem? {t line : Text} {i p : Nat} (h : t.lines[i]? = some line)
    (hFirst : lineFirst t i ≤ p) (hStop : p ≤ lineStop t i) : lineAt t p = line := by
  obtain ⟨above, below, hText, hLength, hAbove, hBelow⟩ := split_of_getElem? h
  have hFree := newline_not_mem_of_mem_lines (List.mem_of_getElem? h)
  rw [← hLength] at hFirst
  rw [lineStop_of_getElem? h, ← hLength] at hStop
  obtain ⟨k, rfl⟩ := Nat.exists_eq_add_of_le hFirst
  have hk : k ≤ line.length := Nat.le_of_add_le_add_left hStop
  have hBefore : (line.take k).reverse ++ above.reverse = (t.take (above.length + k)).reverse := by
    rw [hText, List.take_length_add_append, List.take_append_of_le_length hk, List.reverse_append]
  have hAfter : line.drop k ++ below = t.drop (above.length + k) := by
    rw [hText, List.drop_length_add_append, List.drop_append_of_le_length hk]
  have hFreeBefore : newline ∉ (line.take k).reverse :=
    fun hMem => hFree (List.mem_of_mem_take (List.mem_reverse.mp hMem))
  have hFreeAfter : newline ∉ line.drop k := fun hMem => hFree (List.mem_of_mem_drop hMem)
  rw [lineAt, ← hBefore, ← hAfter, takeWhile_append hFreeBefore (by simpa using hAbove),
    takeWhile_append hFreeAfter hBelow, List.reverse_reverse, List.take_append_drop]

/-- The places of a line are those with its number. -/
theorem lineNumber_eq_iff {t : Text} {i p : Nat} (h : i < t.lines.length) (hp : p ≤ t.length) :
    lineNumber t p = i ↔ lineFirst t i ≤ p ∧ p ≤ lineStop t i := by
  have hSelf := le_lineNumber_iff h p
  by_cases hNext : i + 1 < t.lines.length
  · have hBelow := le_lineNumber_iff hNext p
    have hFirst : lineFirst t (i + 1) = lineStop t i + 1 := by
      rw [lineStop, lineFirst, List.take_add_one, extent_append, List.getD_eq_getElem?_getD,
        List.getElem?_eq_getElem h]
      simp [extent, lineFirst, Nat.add_assoc]
    rw [hFirst] at hBelow
    omega
  · have hLast := lineNumber_lt_length_lines t p
    obtain ⟨line, hLine⟩ : ∃ line, t.lines[i]? = some line := ⟨_, List.getElem?_eq_getElem h⟩
    have hEnd : lineStop t i = t.length := by
      rcases (standsAt_of_getElem? hLine).closes with hEnd | hNewline
      · exact hEnd
      · -- A newline there would be one more than the text has.
        have hNumber := (le_lineNumber_iff h (lineStop t i)).mpr (Nat.le_add_right _ _)
        have hMore := lineNumber_lt_length_lines t (lineStop t i + 1)
        rw [lineNumber_succ hNewline] at hMore
        omega
    omega

end Text

end LogTriage
