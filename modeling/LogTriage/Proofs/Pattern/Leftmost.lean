import LogTriage.Proofs.Pattern.LineScan
import LogTriage.Proofs.Pattern.ScanFlags
import LogTriage.Proofs.Text.CodePoints
import Mathlib.Data.List.Nodup
import Mathlib.Data.List.Perm.Subperm

/-! # Leftmost matches by position

A scan as a list of positions. A search looks at one place after the other, a character at a time, and
finds the leftmost match. A scan finds what the searches find that begin where the match before leaves
off, and ends with one that finds nothing.
-/

namespace LogTriage.Pattern

set_option autoImplicit false

/-- Position `i` of a text, or its end if it is shorter. -/
def Cursor.place (t : Text) (i : Nat) : Cursor :=
  ⟨(t.take i).reverse, t.drop i, min i t.length, by simp⟩

/-- The unit at position `i` and the one behind it are the halves of a surrogate pair. -/
def PairAt (t : Text) (i : Nat) : Prop :=
  ∃ u v, t[i]? = some u ∧ t[i + 1]? = some v ∧ Text.isHigh u = true ∧ Text.isLow v = true

/-- How many units the character at position `i` has; read wide, a surrogate pair has two. -/
def charWidth (wide : Bool) (t : Text) (i : Nat) : Nat :=
  match t.drop i with
  | u :: v :: _ => if wide && Text.isHigh u && Text.isLow v then 2 else 1
  | _ => 1

/-- The positions that a search from `i` looks at. -/
inductive Visits (wide : Bool) (t : Text) : Nat → Nat → Prop
  | here {i : Nat} (h : i ≤ t.length) : Visits wide t i i
  | onward {i j : Nat} (h : i < t.length) (hMore : Visits wide t (i + charWidth wide t i) j) :
      Visits wide t i j

/-- No match stands at a position that the search looks at. -/
def Barren (p : Pattern) (t : Text) (i : Nat) : Prop :=
  ∀ j, Visits p.flags.unicode t i j → matchAt p (.place t j) = none

/-- `m` is the match at the first position, of those that a search from `i` looks at, to have one. -/
structure Leftmost (p : Pattern) (t : Text) (i : Nat) (m : Found) : Prop where
  found : matchAt p (.place t m.index) = some m
  visited : Visits p.flags.unicode t i m.index
  least : ∀ j, Visits p.flags.unicode t i j → j < m.index → matchAt p (.place t j) = none

/-- Where the search after a match begins: at its end, or a character later if it reads nothing. -/
def Found.next (wide : Bool) (t : Text) (m : Found) : Nat :=
  if m.isEmpty then m.stop.index + charWidth wide t m.stop.index else m.stop.index

/-- Where the search begins after some matches of a scan from `i`. -/
def resumeAfter (wide : Bool) (t : Text) (i : Nat) (ms : List Found) : Nat :=
  ms.foldl (fun _ m => m.next wide t) i

/-! ## Positions and cursors -/

theorem Cursor.text_place (t : Text) (i : Nat) : (Cursor.place t i).text = t := by
  rw [text, place, List.reverse_reverse, List.take_append_drop]

theorem Cursor.place_index {t : Text} {c : Cursor} (h : c.text = t) : .place t c.index = c := by
  apply eq_of_text_eq
  · rw [text_place, h]
  · have hLe := c.index_le_length
    rw [h] at hLe
    exact Nat.min_eq_left hLe

theorem charWidth_eq (wide : Bool) (t : Text) (i : Nat) :
    charWidth wide t i = 2 ∧ wide = true ∧ PairAt t i ∨
      charWidth wide t i = 1 ∧ ¬ (wide = true ∧ PairAt t i) := by
  have hFirst : t[i]? = (t.drop i)[0]? := by rw [List.getElem?_drop, Nat.add_zero]
  have hSecond : t[i + 1]? = (t.drop i)[1]? := by rw [List.getElem?_drop]
  rw [charWidth, PairAt, hFirst, hSecond]
  split
  · rename_i u v rest hDrop
    simp only [hDrop, List.getElem?_cons_zero, List.getElem?_cons_succ, Option.some.injEq,
      exists_and_left, exists_eq_left', Bool.and_eq_true, and_assoc]
    split_ifs with hPair
    · exact .inl ⟨rfl, hPair⟩
    · exact .inr ⟨rfl, hPair⟩
  · rename_i hShort
    refine .inr ⟨rfl, ?_⟩
    rintro ⟨-, u, v, hu, hv, -⟩
    match hDrop : t.drop i with
    | [] => simp [hDrop] at hu
    | [w] => simp [hDrop] at hv
    | w :: x :: rest => exact hShort w x rest hDrop

theorem charWidth_pos (wide : Bool) (t : Text) (i : Nat) : 1 ≤ charWidth wide t i := by
  rcases charWidth_eq wide t i with ⟨hWidth, -⟩ | ⟨hWidth, -⟩ <;> omega

theorem not_pairAt_succ {t : Text} {i : Nat} (h : PairAt t i) : ¬ PairAt t (i + 1) := by
  rintro ⟨v, -, hv, -, hHigh, -⟩
  obtain ⟨-, v', -, hv', -, hLow⟩ := h
  obtain rfl : v = v' := Option.some.inj (hv.symm.trans hv')
  rw [Text.isHigh_iff] at hHigh
  rw [Text.isLow_iff] at hLow
  omega

theorem Visits.le {wide : Bool} {t : Text} {i j : Nat} (h : Visits wide t i j) :
    i ≤ j ∧ j ≤ t.length := by
  induction h with
  | here h => exact ⟨Nat.le_refl _, h⟩
  | onward h _ ih => omega

/-- A search leaves no position out, but for those between the halves of a pair if it reads wide. -/
theorem visits_iff {wide : Bool} {t : Text} {i j : Nat} :
    Visits wide t i j ↔ i ≤ j ∧ j ≤ t.length ∧
      ¬ (wide = true ∧ ∃ k, i ≤ k ∧ k + 1 = j ∧ PairAt t k) := by
  constructor
  · intro h
    induction h with
    | here h => exact ⟨Nat.le_refl _, h, by omega⟩
    | @onward i j hInside hMore ih =>
      obtain ⟨hFrom, hTo, hApart⟩ := ih
      have hWidth := charWidth_pos wide t i
      refine ⟨by omega, hTo, ?_⟩
      rintro ⟨hWide, k, hik, hkj, hPair⟩
      apply hApart
      refine ⟨hWide, k, ?_, hkj, hPair⟩
      -- The pair does not begin at the character that is stepped over, nor in the middle of it.
      rcases charWidth_eq wide t i with ⟨hTwo, -, hHere⟩ | ⟨hOne, hHere⟩
      · have hNext : k ≠ i + 1 := fun hEq => not_pairAt_succ hHere (hEq ▸ hPair)
        omega
      · have hNext : k ≠ i := fun hEq => hHere ⟨hWide, hEq ▸ hPair⟩
        omega
  · rintro ⟨hFrom, hTo, hApart⟩
    induction hGap : j - i using Nat.strongRecOn generalizing i with
    | ind n ih =>
      rcases Nat.eq_or_lt_of_le hFrom with rfl | hLess
      · exact .here hTo
      · have hPos := charWidth_pos wide t i
        have hWithin : i + charWidth wide t i ≤ j := by
          rcases charWidth_eq wide t i with ⟨hTwo, hWide, hHere⟩ | ⟨hOne, -⟩
          · have hNext : i + 1 ≠ j := fun hEq => hApart ⟨hWide, i, Nat.le_refl i, hEq, hHere⟩
            omega
          · omega
        apply Visits.onward (by omega)
        apply ih (j - (i + charWidth wide t i)) (by omega) hWithin ?_ rfl
        rintro ⟨hWide, k, hik, hPair⟩
        exact hApart ⟨hWide, k, by omega, hPair⟩

theorem Cursor.readForward_index {wide : Bool} {t : Text} {c next : Cursor} {x : Nat}
    (hText : c.text = t) (h : c.readForward wide = some (x, next)) :
    next.index = c.index + charWidth wide t c.index := by
  rw [readForward] at h
  cases hFirst : c.advance with
  | none => simp [hFirst] at h
  | some first =>
    obtain ⟨hAfter, -⟩ := advance_eq_some_iff.mp hFirst
    obtain ⟨-, hIndex⟩ := advance_onward hFirst
    rw [charWidth, ← hText, drop_text, hAfter]
    cases hSecond : first.2.advance with
    | none =>
      have hEnd : first.2.after = [] := by
        cases hRest : first.2.after with
        | nil => rfl
        | cons v rest => simp [advance, hRest] at hSecond
      simp only [hFirst, hSecond, ite_self, Option.some.injEq, Prod.mk.injEq] at h
      obtain ⟨-, rfl⟩ := h
      rw [hEnd]
      exact hIndex
    | some second =>
      obtain ⟨hAfter', -⟩ := advance_eq_some_iff.mp hSecond
      obtain ⟨-, hIndex'⟩ := advance_onward hSecond
      rw [hAfter']
      simp only [hFirst, hSecond] at h
      split_ifs at h with hHigh hLow <;> obtain ⟨-, rfl⟩ := Prod.mk.inj (Option.some.inj h)
      · simp only [hHigh, hLow, Bool.true_and, if_true]
        omega
      · simp only [hHigh, hLow, Bool.true_and, Bool.false_eq_true, if_false]
        exact hIndex
      · simp only [hHigh, Bool.false_and, Bool.false_eq_true, if_false]
        exact hIndex

variable {p : Pattern} {t : Text}

/-- A step leads over one character. -/
theorem stepOver_index {c next : Cursor} (hText : c.text = t) (h : stepOver p c = some next) :
    next.text = t ∧ c.index < t.length ∧
      next.index = c.index + charWidth p.flags.unicode t c.index := by
  obtain ⟨hOn, hLess⟩ := stepOver_onward h
  have hNext : next.text = t := hOn.1.trans hText
  have hLe := next.index_le_length
  rw [hNext] at hLe
  obtain ⟨found, hRead, rfl⟩ := Option.map_eq_some_iff.mp h
  exact ⟨hNext, by omega, Cursor.readForward_index hText hRead⟩

theorem length_le_of_stepOver {c : Cursor} (hText : c.text = t) (h : stepOver p c = none) :
    t.length ≤ c.index := by
  have hLength := c.after_length
  rw [hText] at hLength
  cases hAfter : c.after with
  | nil =>
    rw [hAfter, List.length_nil] at hLength
    omega
  | cons u rest =>
    have hNone := Option.map_eq_none_iff.mp h
    rw [Cursor.readForward, Cursor.advance, hAfter] at hNone
    dsimp only at hNone
    split_ifs at hNone
    split at hNone
    · split_ifs at hNone
    · cases hNone

/-! ## One search -/

theorem Leftmost.here {c : Cursor} {m : Found} (hText : c.text = t) (h : matchAt p c = some m) :
    Leftmost p t c.index m := by
  have hLe := c.index_le_length
  rw [hText] at hLe
  have hFirst : m.index = c.index := congrArg Cursor.index (matchAt_onward h).1
  constructor
  · rwa [hFirst, Cursor.place_index hText]
  · rw [hFirst]
    exact .here hLe
  · intro j hVisits hLess
    have hOrder := hVisits.le.1
    omega

variable {i : Nat}

theorem Leftmost.later {m : Found} (hNone : matchAt p (.place t i) = none) (hInside : i < t.length)
    (h : Leftmost p t (i + charWidth p.flags.unicode t i) m) : Leftmost p t i m := by
  refine ⟨h.found, .onward hInside h.visited, ?_⟩
  intro j hVisits hBefore
  cases hVisits with
  | here => exact hNone
  | onward _ hMore => exact h.least j hMore hBefore

theorem Barren.later (hNone : matchAt p (.place t i) = none)
    (h : Barren p t (i + charWidth p.flags.unicode t i)) : Barren p t i := by
  intro j hVisits
  cases hVisits with
  | here => exact hNone
  | onward _ hMore => exact h j hMore

theorem barren_end (hNone : matchAt p (.place t i) = none) (hEnd : t.length ≤ i) : Barren p t i := by
  intro j hVisits
  obtain ⟨hFrom, hTo⟩ := hVisits.le
  obtain rfl : j = i := by omega
  exact hNone

/-- A search names the leftmost match, and nothing only where there is none. -/
theorem find_leftmost (c : Cursor) (hText : c.text = t) :
    (∀ m, find p c = some m → Leftmost p t c.index m) ∧
      (find p c = none → Barren p t c.index) := by
  -- On what the cursor has ahead, which every step makes less.
  induction hLength : c.after.length using Nat.strongRecOn generalizing c with
  | ind n ih =>
    rw [find_eq]
    cases hMatch : matchAt p c with
    | some m =>
      refine ⟨?_, fun h => by cases h⟩
      intro m' hm
      obtain rfl := Option.some.inj hm
      exact .here hText hMatch
    | none =>
      have hHere : matchAt p (.place t c.index) = none := by rwa [Cursor.place_index hText]
      rw [Option.none_or]
      cases hStep : stepOver p c with
      | none =>
        refine ⟨fun _ h => (by cases h), ?_⟩
        intro _
        exact barren_end hHere (length_le_of_stepOver hText hStep)
      | some next =>
        obtain ⟨hNext, hInside, hIndex⟩ := stepOver_index hText hStep
        obtain ⟨hOn, hLater⟩ := stepOver_onward hStep
        have hLess : next.after.length < n := hLength ▸ hOn.ahead_length_lt (by omega)
        obtain ⟨hSome, hNone⟩ := ih _ hLess next hNext rfl
        rw [hIndex] at hSome hNone
        rw [Option.bind_some]
        exact ⟨fun m hm => (hSome m hm).later hHere hInside, fun h => (hNone h).later hHere⟩

/-! ## One after the other -/

theorem resume_index {m : Found} (hText : m.stop.text = t) :
    (∀ next, resume (stepOver p) m = some next →
      next.text = t ∧ next.index = m.next p.flags.unicode t) ∧
    (resume (stepOver p) m = none → t.length < m.next p.flags.unicode t) := by
  rw [resume, Found.next]
  split_ifs with hEmpty
  · constructor
    · intro next hStep
      obtain ⟨hNext, -, hIndex⟩ := stepOver_index hText hStep
      exact ⟨hNext, hIndex⟩
    · intro hStep
      have hEnd := length_le_of_stepOver hText hStep
      have hWidth := charWidth_pos p.flags.unicode t m.stop.index
      omega
  · refine ⟨?_, fun h => by cases h⟩
    intro next hNext
    obtain rfl := Option.some.inj hNext
    exact ⟨hText, rfl⟩

theorem stop_text {c : Cursor} {m : Found} (hText : c.text = t) (h : find p c = some m) :
    m.stop.text = t := by
  obtain ⟨hOn, hMatch⟩ := find_some h
  exact (matchAt_onward hMatch).2.1.trans (hOn.1.trans hText)

/-- Each match is the leftmost one from where the matches before it leave off, and after the last one
there is none. -/
theorem Enumerates.leftmost {c : Cursor} {ms : List Found} (h : Enumerates p c ms)
    (hText : c.text = t) :
    (∀ before m after, ms = before ++ m :: after →
      Leftmost p t (resumeAfter p.flags.unicode t c.index before) m) ∧
    Barren p t (resumeAfter p.flags.unicode t c.index ms) := by
  induction h with
  | done hFind => exact ⟨by simp, (find_leftmost _ hText).2 hFind⟩
  | @last c m hFind hStop =>
    have hBeyond := (resume_index (stop_text hText hFind)).2 hStop
    constructor
    · intro before n after hSplit
      obtain ⟨rfl, rfl, rfl⟩ : before = [] ∧ n = m ∧ after = [] := by
        cases before <;> simp_all
      exact (find_leftmost c hText).1 _ hFind
    · intro j hVisits
      obtain ⟨hFrom, hTo⟩ := hVisits.le
      have hFrom : m.next p.flags.unicode t ≤ j := hFrom
      omega
  | @more c next m ms hFind hNext _ ih =>
    obtain ⟨hNextText, hIndex⟩ := (resume_index (stop_text hText hFind)).1 next hNext
    obtain ⟨hLeftmost, hBarren⟩ := ih hNextText
    rw [hIndex] at hLeftmost hBarren
    refine ⟨?_, hBarren⟩
    intro before n after hSplit
    cases before with
    | nil =>
      obtain ⟨rfl, rfl⟩ := List.cons.inj hSplit
      exact (find_leftmost c hText).1 _ hFind
    | cons first before =>
      obtain ⟨rfl, hRest⟩ := List.cons.inj hSplit
      exact hLeftmost before n after hRest

/-- The first match of a scan is the first one that stands anywhere. -/
theorem scan_eq_cons {m : Found} (hWide : p.flags.unicode = false) (hi : i ≤ t.length)
    (hMatch : matchAt p (.place t i) = some m) (hBefore : ∀ j < i, matchAt p (.place t j) = none) :
    ∃ more, scan p t = m :: more := by
  obtain ⟨hLeftmost, hBarren⟩ := (enumerates_scan p t).leftmost (Cursor.text_start t)
  have hVisits : Visits p.flags.unicode t 0 i := visits_iff.mpr ⟨Nat.zero_le i, hi, by simp [hWide]⟩
  cases hScan : scan p t with
  | nil =>
    rw [hScan] at hBarren
    simp [hBarren i hVisits] at hMatch
  | cons n more =>
    have hFirst := hLeftmost [] n more hScan
    have hIndex : n.index = i := by
      rcases Nat.lt_trichotomy n.index i with hLess | hEq | hMore
      · have hFound := hFirst.found
        simp [hBefore n.index hLess] at hFound
      · exact hEq
      · simp [hFirst.least i hVisits hMore] at hMatch
    have hFound := hFirst.found
    rw [hIndex, hMatch] at hFound
    exact ⟨more, by rw [Option.some.inj hFound]⟩

/-- There is room for one match at each position and one at the end. -/
theorem length_scan_le (p : Pattern) (t : Text) : (scan p t).length ≤ t.length + 1 := by
  have hNodup : ((scan p t).map Found.index).Nodup :=
    List.pairwise_map.mpr ((scan_pairwise p t).imp fun h => Nat.ne_of_lt h.1)
  have hRange : (scan p t).map Found.index ⊆ List.range (t.length + 1) := by
    intro i hi
    obtain ⟨m, hm, rfl⟩ := List.mem_map.mp hi
    have hLe := m.first.index_le_length
    rw [(mem_scan hm).1] at hLe
    exact List.mem_range.mpr (Nat.lt_succ_of_le hLe)
  have hLength := (hNodup.subperm hRange).length_le
  rwa [List.length_map, List.length_range] at hLength

/-- A scan has at most one match more than the text has units. No match begins before the end of another
that stands before it, or at its end if that one reads nothing. Each is the leftmost one from where the
matches before it leave off, and after the last one there is none. To find them a search looks at every
position, but for those between the halves of a pair if it reads wide. Whether the pattern carries `g` or
`y` makes no difference. -/
theorem scan_leftmost (p : Pattern) (t : Text) :
    (scan p t).length ≤ t.length + 1 ∧
    ((scan p t).Pairwise fun m n =>
      m.stop.index ≤ n.index ∧ (m.isEmpty = true → m.stop.index < n.index)) ∧
    (∀ before m after, scan p t = before ++ m :: after →
      Leftmost p t (resumeAfter p.flags.unicode t 0 before) m) ∧
    Barren p t (resumeAfter p.flags.unicode t 0 (scan p t)) ∧
    (∀ i j, Visits p.flags.unicode t i j ↔ i ≤ j ∧ j ≤ t.length ∧
      ¬ (p.flags.unicode = true ∧ ∃ k, i ≤ k ∧ k + 1 = j ∧ PairAt t k)) ∧
    ∀ source flags, ofSource source flags = .ok p → ∀ global sticky, ∃ q,
      ofSource source (flags.scanning global sticky) = .ok q ∧ scan q t = scan p t := by
  obtain ⟨hLeftmost, hBarren⟩ := (enumerates_scan p t).leftmost (Cursor.text_start t)
  refine ⟨length_scan_le p t, (scan_pairwise p t).imp ?_, hLeftmost, hBarren,
    fun _ _ => visits_iff, ?_⟩
  · rintro m n ⟨hIndex, hStop⟩
    refine ⟨hStop, fun hEmpty => ?_⟩
    simp only [Found.isEmpty, beq_iff_eq] at hEmpty
    exact hEmpty ▸ hIndex
  · intro source flags hCompiled global sticky
    exact ⟨_, ofSource_scanning flags global sticky hCompiled, scan_scanning global sticky p t⟩

def starA : Pattern := literal "a*" { unicode := true }

/-- A surrogate pair and an `a`. -/
def pairThenA : Text := [0xD83D, 0xDE00, 0x61]

/-- After the empty match before the pair, the search goes on behind both its halves. -/
theorem scan_leftmost_pair :
    (∃ first m last, scan starA pairThenA = [first, m, last] ∧ Leftmost starA pairThenA 2 m) ∧
    ∃ q, ofSource (Text.ofString "a*") { unicode := true, global := true, sticky := true } = .ok q ∧
      scan q pairThenA = scan starA pairThenA := by
  obtain ⟨-, -, hLeftmost, -, -, hFlags⟩ := scan_leftmost starA pairThenA
  have hLength : (scan starA pairThenA).length = 3 := by decide +kernel
  have hNext : (scan starA pairThenA).map (Found.next true pairThenA) = [2, 3, 4] := by
    decide +kernel
  obtain ⟨first, m, last, hScan⟩ := List.length_eq_three.mp hLength
  constructor
  · refine ⟨first, m, last, hScan, ?_⟩
    have hSecond := hLeftmost [first] m [last] hScan
    rw [hScan] at hNext
    have hTwo : first.next true pairThenA = 2 := List.head_eq_of_cons_eq hNext
    rwa [resumeAfter, List.foldl_cons, List.foldl_nil, show starA.flags.unicode = true from rfl,
      hTwo] at hSecond
  · exact hFlags (Text.ofString "a*") { unicode := true } (by decide +kernel) true true

end LogTriage.Pattern
