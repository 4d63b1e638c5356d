import LogTriage.Dmesg.Range
import Mathlib.Algebra.Order.Field.Rat
import Mathlib.Data.List.Basic

/-! # What a range keeps

Each line is governed by the last instant read up to it, its own included. In a log whose instants never
go back, the range keeps the lines whose governing instant lies in the half-open interval, and besides
them the lines governed by the instant that opens the range, which is not measured against the end.
-/

namespace LogTriage.Dmesg

set_option autoImplicit false

def instants (lines : List Text) : List Rat := lines.filterMap lineInstant

/-- The instants read when line `i` is judged. -/
def history (lines : List Text) (i : Nat) : List Rat := instants (lines.take (i + 1))

/-- The instant of line `i`, or else that of the nearest line above that has one. -/
def governing (lines : List Text) (i : Nat) : Option Rat := (history lines i).getLast?

/-- From `start` on and before `stop`. What no instant governs lies in a range without a start. -/
def InRange (start stop instant : Option Rat) : Prop :=
  match instant with
  | none => start = none
  | some t => (∀ s ∈ start, s ≤ t) ∧ ∀ e ∈ stop, t < e

/-- The last instant is the first to reach a start that is given. -/
def Opens (start : Option Rat) (seen : List Rat) : Prop :=
  reached start seen.getLast? = true ∧ ∀ t ∈ seen.dropLast, reached start (some t) = false

instance (start stop instant : Option Rat) : Decidable (InRange start stop instant) :=
  match instant with
  | none => inferInstanceAs (Decidable (start = none))
  | some _ => inferInstanceAs (Decidable (_ ∧ _))

instance (start : Option Rat) (seen : List Rat) : Decidable (Opens start seen) :=
  inferInstanceAs (Decidable (_ ∧ _))

variable {start stop : Option Rat}

theorem reached_eq_true_iff {bound instant : Option Rat} :
    reached bound instant = true ↔ ∃ b t, bound = some b ∧ instant = some t ∧ b ≤ t := by
  cases bound with
  | none => simp [reached]
  | some b =>
    cases instant with
    | none => simp [reached]
    | some t => simp [reached]

theorem inRange_iff {instant : Option Rat} :
    InRange start stop instant ↔
      (start = none ∨ reached start instant = true) ∧ reached stop instant = false := by
  cases instant with
  | none => cases start <;> simp [InRange, reached]
  | some t => cases start <;> cases stop <;> simp [InRange, reached]

/-! ## The range while it lasts -/

/-- Whether the range has begun. -/
def begun (start : Option Rat) (seen : List Rat) : Bool :=
  start.isNone || seen.any fun t => reached start (some t)

/-- No instant has ended the range: one that reaches the end has opened it. -/
def Running (start stop : Option Rat) (seen : List Rat) : Prop :=
  ∀ earlier, earlier <+: seen → reached stop earlier.getLast? = true → Opens start earlier

theorem running_nil : Running start stop [] := by
  intro earlier hPrefix hReached
  rw [List.prefix_nil.mp hPrefix] at hReached
  simp [reached_eq_true_iff] at hReached

theorem Running.concat {seen : List Rat} {t : Rat} (h : Running start stop seen)
    (hLast : reached stop (some t) = true → Opens start (seen ++ [t])) :
    Running start stop (seen ++ [t]) := by
  intro earlier hPrefix hReached
  rcases List.prefix_concat_iff.mp hPrefix with rfl | hPrefix
  · apply hLast
    simpa using hReached
  · exact h earlier hPrefix hReached

theorem opens_concat_iff {seen : List Rat} {t : Rat} :
    Opens start (seen ++ [t]) ↔ begun start seen = false ∧ reached start (some t) = true := by
  cases start with
  | none => simp [Opens, begun, reached]
  | some s => simp [Opens, begun, and_comm]

theorem begun_concat (seen : List Rat) (t : Rat) :
    begun start (seen ++ [t]) = (begun start seen || reached start (some t)) := by
  simp [begun, Bool.or_assoc]

/-- In a log that never goes back, the last instant tells whether the range has begun. -/
theorem begun_iff {seen : List Rat} (hOrdered : seen.Pairwise (· ≤ ·)) :
    begun start seen = true ↔ start = none ∨ reached start seen.getLast? = true := by
  cases start with
  | none => simp [begun]
  | some s =>
    rcases seen.eq_nil_or_concat' with rfl | ⟨front, t, rfl⟩
    · simp [begun, reached]
    · have hLe : ∀ x ∈ front, x ≤ t := by
        intro x hx
        exact (List.pairwise_append.mp hOrdered).2.2 x hx t (List.mem_singleton_self t)
      simp only [begun, Option.isNone_some, Bool.false_or, List.any_append, List.any_cons,
        List.any_nil, Bool.or_false, Bool.or_eq_true, List.any_eq_true, List.getLast?_concat,
        reached, decide_eq_true_eq, reduceCtorEq, false_or]
      constructor
      · rintro (⟨x, hx, hReached⟩ | hReached)
        · exact hReached.trans (hLe x hx)
        · exact hReached
      · exact .inr

/-- While the range lasts, a line is kept exactly if the range has begun. -/
theorem kept_iff_begun {seen : List Rat} (hOrdered : seen.Pairwise (· ≤ ·))
    (hRunning : Running start stop seen) :
    InRange start stop seen.getLast? ∨ Opens start seen ↔ begun start seen = true := by
  rw [begun_iff hOrdered, inRange_iff]
  constructor
  · rintro (hInRange | hOpens)
    · exact hInRange.1
    · exact .inr hOpens.1
  · intro hBegun
    cases hEnd : reached stop seen.getLast? with
    | true => exact .inr (hRunning seen List.prefix_rfl hEnd)
    | false => exact .inl ⟨hBegun, rfl⟩

/-- Once an instant has ended the range, nothing is kept. -/
theorem not_kept_of_ended {seen more : List Rat} {t : Rat}
    (hOrdered : (seen ++ [t] ++ more).Pairwise (· ≤ ·)) (hBounds : ∀ s ∈ start, ∀ e ∈ stop, s ≤ e)
    (hEnd : reached stop (some t) = true) (hOpens : ¬Opens start (seen ++ [t])) :
    ¬(InRange start stop (seen ++ [t] ++ more).getLast? ∨ Opens start (seen ++ [t] ++ more)) := by
  obtain ⟨e, _, rfl, ⟨⟩, hEnd⟩ := reached_eq_true_iff.mp hEnd
  rcases more.eq_nil_or_concat' with rfl | ⟨front, last, rfl⟩
  · rw [List.append_nil, List.getLast?_concat, inRange_iff]
    rintro (⟨-, hNot⟩ | hOpens')
    · simp [reached] at hNot
      exact absurd hEnd (not_le.mpr hNot)
    · exact hOpens hOpens'
  · rw [← List.append_assoc] at hOrdered ⊢
    have hLe : t ≤ last :=
      (List.pairwise_append.mp hOrdered).2.2 t (by simp) last (List.mem_singleton_self last)
    rw [List.getLast?_concat, inRange_iff]
    rintro (⟨-, hNot⟩ | ⟨hReached, hFirst⟩)
    · simp [reached] at hNot
      exact absurd (hEnd.trans hLe) (not_le.mpr hNot)
    · -- The instant that ended the range lies at or after its start, so no later one opens it.
      obtain ⟨s, -, rfl, -, -⟩ := reached_eq_true_iff.mp hReached
      have hStart : s ≤ t := (hBounds s rfl e rfl).trans hEnd
      have hNot := hFirst t (by rw [List.dropLast_concat]; simp)
      simp [reached] at hNot
      exact absurd hStart (not_le.mpr hNot)

/-! ## Line by line -/

theorem instants_append (lines more : List Text) :
    instants (lines ++ more) = instants lines ++ instants more :=
  List.filterMap_append

theorem instants_singleton (line : Text) : instants [line] = (lineInstant line).toList := by
  cases h : lineInstant line <;> simp [instants, h]

theorem history_append (done rest : List Text) {i : Nat} (h : done.length ≤ i + 1) :
    history (done ++ rest) i = instants done ++ instants (rest.take (i + 1 - done.length)) := by
  rw [history, List.take_append, List.take_of_length_le h, instants_append]

theorem history_ordered {lines : List Text} (hOrdered : (instants lines).Pairwise (· ≤ ·))
    (i : Nat) : (history lines i).Pairwise (· ≤ ·) :=
  hOrdered.sublist ((List.take_sublist _ _).filterMap _)

/-- The line ends the range: its instant reaches the end and does not open the range. -/
def Ends (start stop : Option Rat) (seen : List Rat) (line : Text) : Prop :=
  ∃ t, lineInstant line = some t ∧ reached stop (some t) = true ∧ ¬Opens start (seen ++ [t])

variable {seen : List Rat} {line : Text}

theorem linesInRange_cons_of_ends (h : Ends start stop seen line) (hLine : line ≠ [])
    (rest : List Text) : linesInRange start stop (begun start seen) (line :: rest) = [] := by
  obtain ⟨t, hInstant, hEnd, hNot⟩ := h
  rw [opens_concat_iff] at hNot
  rw [linesInRange, if_neg hLine, hInstant, if_neg (by simpa using hNot), if_pos hEnd]

theorem linesInRange_cons_of_not_ends (h : ¬Ends start stop seen line) (hLine : line ≠ [])
    (rest : List Text) :
    linesInRange start stop (begun start seen) (line :: rest) =
      if begun start (seen ++ (lineInstant line).toList) then
        line :: linesInRange start stop (begun start (seen ++ (lineInstant line).toList)) rest
      else linesInRange start stop (begun start (seen ++ (lineInstant line).toList)) rest := by
  rw [linesInRange, if_neg hLine]
  cases hInstant : lineInstant line with
  | none =>
    have hNone (bound : Option Rat) : reached bound none = false := by cases bound <;> rfl
    simp [hNone]
  | some t =>
    rw [Option.toList_some, begun_concat]
    by_cases hOpens : begun start seen = false ∧ reached start (some t) = true
    · simp [hOpens]
    · have hEnd : reached stop (some t) = false := by
        rw [← Bool.not_eq_true]
        intro hEnd
        exact h ⟨t, hInstant, hEnd, fun hOpens' => hOpens (opens_concat_iff.mp hOpens')⟩
      cases hBegun : begun start seen with
      | true => simp [hEnd]
      | false => simp_all

theorem running_of_not_ends (hRunning : Running start stop seen)
    (h : ¬Ends start stop seen line) : Running start stop (seen ++ (lineInstant line).toList) := by
  cases hInstant : lineInstant line with
  | none => simpa using hRunning
  | some t =>
    apply hRunning.concat
    intro hEnd
    by_contra hNot
    exact h ⟨t, hInstant, hEnd, hNot⟩

theorem lineInstant_nil : lineInstant [] = none := by
  decide +kernel

/-- Whether line `i` is kept. -/
def Kept (start stop : Option Rat) (lines : List Text) (i : Nat) : Prop :=
  InRange start stop (governing lines i) ∨ Opens start (history lines i)

instance (lines : List Text) (i : Nat) : Decidable (Kept start stop lines i) :=
  inferInstanceAs (Decidable (_ ∨ _))

theorem not_kept_of_ends {done rest : List Text} (hEnds : Ends start stop (instants done) line)
    (hOrdered : (instants (done ++ [line] ++ rest)).Pairwise (· ≤ ·))
    (hBounds : ∀ s ∈ start, ∀ e ∈ stop, s ≤ e) {i : Nat} (hi : done.length ≤ i) :
    ¬Kept start stop (done ++ [line] ++ rest) i := by
  obtain ⟨t, hInstant, hEnd, hNot⟩ := hEnds
  have hLength : (done ++ [line]).length ≤ i + 1 := by
    rw [List.length_append, List.length_singleton]
    omega
  have hHistory : history (done ++ [line] ++ rest) i =
      instants done ++ [t] ++ instants (rest.take (i + 1 - (done ++ [line]).length)) := by
    rw [history_append _ _ hLength, instants_append, instants_singleton, hInstant,
      Option.toList_some]
  have hSorted := history_ordered hOrdered i
  rw [Kept, governing, hHistory]
  rw [hHistory] at hSorted
  exact not_kept_of_ended hSorted hBounds hEnd hNot

theorem kept_iff_of_not_ends {done rest : List Text}
    (hRunning : Running start stop (instants done)) (hEnds : ¬Ends start stop (instants done) line)
    (hOrdered : (instants (done ++ [line] ++ rest)).Pairwise (· ≤ ·)) :
    Kept start stop (done ++ [line] ++ rest) done.length ↔
      begun start (instants done ++ (lineInstant line).toList) = true := by
  have hLength : (done ++ [line]).length = done.length + 1 := List.length_append
  have hHistory : history (done ++ [line] ++ rest) done.length =
      instants done ++ (lineInstant line).toList := by
    rw [history_append _ _ hLength.le, hLength, Nat.sub_self, instants_append, instants_singleton]
    exact List.append_nil _
  have hSorted := history_ordered hOrdered done.length
  rw [Kept, governing, hHistory]
  rw [hHistory] at hSorted
  exact kept_iff_begun hSorted (running_of_not_ends hRunning hEnds)

theorem linesInRange_eq {lines done rest : List Text} (hLines : lines = done ++ rest)
    (hOrdered : (instants lines).Pairwise (· ≤ ·)) (hBounds : ∀ s ∈ start, ∀ e ∈ stop, s ≤ e)
    (hRunning : Running start stop (instants done)) :
    linesInRange start stop (begun start (instants done)) rest =
      ((rest.zipIdx done.length).filter fun entry =>
        entry.1 ≠ [] ∧ Kept start stop lines entry.2).map (·.1) := by
  induction rest generalizing done with
  | nil => rfl
  | cons line rest ih =>
    have hNext : lines = (done ++ [line]) ++ rest := by
      rw [hLines, List.append_assoc, List.singleton_append]
    have hSeen : instants (done ++ [line]) = instants done ++ (lineInstant line).toList := by
      rw [instants_append, instants_singleton]
    have hLength : (done ++ [line]).length = done.length + 1 := List.length_append
    have ih := ih hNext
    rw [hSeen, hLength] at ih
    rw [List.zipIdx_cons]
    by_cases hLine : line = []
    · subst hLine
      rw [List.filter_cons_of_neg (by simp), linesInRange, if_pos rfl]
      rw [lineInstant_nil, Option.toList_none, List.append_nil] at ih
      exact ih hRunning
    · by_cases hEnds : Ends start stop (instants done) line
      · rw [linesInRange_cons_of_ends hEnds hLine, eq_comm, List.map_eq_nil_iff,
          List.filter_eq_nil_iff]
        intro entry hEntry
        have hi : done.length ≤ entry.2 := by
          rw [← List.zipIdx_cons] at hEntry
          exact List.le_snd_of_mem_zipIdx hEntry
        have hNot := not_kept_of_ends hEnds (hNext ▸ hOrdered) hBounds hi
        rw [← hNext] at hNot
        simp [hNot]
      · have hKept := kept_iff_of_not_ends hRunning hEnds (hNext ▸ hOrdered)
        rw [← hNext] at hKept
        rw [linesInRange_cons_of_not_ends hEnds hLine, ih (running_of_not_ends hRunning hEnds)]
        by_cases hBegun : begun start (instants done ++ (lineInstant line).toList) = true
        · rw [if_pos hBegun, List.filter_cons_of_pos (by simp [hLine, hKept, hBegun])]
          rfl
        · rw [if_neg hBegun, List.filter_cons_of_neg (by simp [hKept, hBegun])]

/-- The lines of a log that lie in a range, each with a newline after it. -/
def halfOpen (start stop : Option Rat) (content : Text) : Text :=
  (content.lines.zipIdx.filter fun entry =>
    entry.1 ≠ [] ∧ InRange start stop (governing content.lines entry.2)).flatMap
      (·.1 ++ [Text.newline])

/-- In a log that never goes back, the range keeps the lines whose governing instant lies in it, and
those that are governed by the instant which opens the range. Where this instant lies before the end,
the range is exactly half-open. -/
theorem filterRange_eq (content : Text) (start stop : Option Rat)
    (hOrdered : (instants content.lines).Pairwise (· ≤ ·))
    (hBounds : ∀ s ∈ start, ∀ e ∈ stop, s ≤ e) :
    filterRange start stop content =
      (content.lines.zipIdx.filter fun entry =>
        entry.1 ≠ [] ∧ Kept start stop content.lines entry.2).flatMap (·.1 ++ [Text.newline]) ∧
    ((∀ i < content.lines.length, Opens start (history content.lines i) →
        reached stop (governing content.lines i) = false) →
      filterRange start stop content = halfOpen start stop content) := by
  have hKept := linesInRange_eq (List.nil_append content.lines).symm hOrdered hBounds
    (running_nil : Running start stop (instants []))
  have hBegun : begun start (instants []) = start.isNone := by simp [begun, instants]
  rw [hBegun] at hKept
  have hAll : filterRange start stop content =
      (content.lines.zipIdx.filter fun entry =>
        entry.1 ≠ [] ∧ Kept start stop content.lines entry.2).flatMap (·.1 ++ [Text.newline]) := by
    rw [filterRange, hKept, List.flatMap_map]
    rfl
  refine ⟨hAll, ?_⟩
  intro hOpening
  rw [hAll, halfOpen]
  congr 1
  apply List.filter_congr
  intro entry hEntry
  have hIndex : entry.2 < content.lines.length := by
    simpa using List.snd_lt_of_mem_zipIdx hEntry
  have hIff : Kept start stop content.lines entry.2 ↔
      InRange start stop (governing content.lines entry.2) := by
    constructor
    · rintro (hInRange | hOpens)
      · exact hInRange
      · exact inRange_iff.mpr ⟨.inr hOpens.1, hOpening entry.2 hIndex hOpens⟩
    · exact .inl
  simp only [hIff]

def instantAt (stamp : String) : Option Rat := Timestamp.parse (Text.ofString stamp)

/-- A log of one line, written at noon. -/
def noonLog : Text := Text.ofString "kern  :info  : 2024-10-07T12:00:00,000000-04:00 resumed"

/-- The range from ten to eleven opens and ends at noon, and keeps the line. -/
theorem filterRange_noonLog :
    ¬(∀ (content : Text) (start stop : Option Rat), (instants content.lines).Pairwise (· ≤ ·) →
      (∀ s ∈ start, ∀ e ∈ stop, s ≤ e) →
        filterRange start stop content = halfOpen start stop content) := by
  intro hAll
  have hNoon := hAll noonLog (instantAt "2024-10-07T10:00:00-04:00") (instantAt "2024-10-07T11:00:00-04:00")
    (by decide +kernel) (by decide +kernel)
  exact absurd hNoon (by decide +kernel)

/-- The hours of a morning, with a line that has no timestamp. -/
def morningLog : Text :=
  Text.ofLines (["kern  :info  : 2024-10-07T09:00:00,000000-04:00 a", "",
    "kern  :info  : 2024-10-07T10:00:00,000000-04:00 b", "  trace of b",
    "kern  :info  : 2024-10-07T11:00:00,000000-04:00 c"].map Text.ofString)

theorem filterRange_morningLog :
    (instants morningLog.lines).Pairwise (· ≤ ·) ∧
    filterRange (instantAt "2024-10-07T09:30:00-04:00") (instantAt "2024-10-07T11:00:00-04:00") morningLog =
      halfOpen (instantAt "2024-10-07T09:30:00-04:00") (instantAt "2024-10-07T11:00:00-04:00") morningLog ∧
    halfOpen (instantAt "2024-10-07T09:30:00-04:00") (instantAt "2024-10-07T11:00:00-04:00") morningLog =
      Text.ofString "kern  :info  : 2024-10-07T10:00:00,000000-04:00 b\n  trace of b\n" := by
  have hOrdered : (instants morningLog.lines).Pairwise (· ≤ ·) := by decide +kernel
  refine ⟨hOrdered, ?_, by decide +kernel⟩
  apply (filterRange_eq morningLog (instantAt "2024-10-07T09:30:00-04:00")
    (instantAt "2024-10-07T11:00:00-04:00") hOrdered (by decide +kernel)).2
  decide +kernel

end LogTriage.Dmesg
