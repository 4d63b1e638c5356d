import LogTriage.Pattern.Scan
import LogTriage.Proofs.Pattern.Progress

/-! # The matches of a scan

`Enumerates` says without any bound what a scan lists: the leftmost match at or after a place, then the
leftmost one from where it leaves off, until there is none. It has one answer for each place, so a list
with this property is the scan. The matches stand in order and do not overlap.
-/

namespace LogTriage.Pattern

set_option autoImplicit false

open Matcher

variable {p : Pattern}

def opening (p : Pattern) (c : Cursor) : State := ⟨c, List.replicate p.groupCount none⟩

def Found.ofState (c : Cursor) (s : State) : Found := ⟨c, s.cursor, s.groups⟩

theorem matchAt_eq_head? (p : Pattern) (c : Cursor) :
    matchAt p c = ((outcomes p.flags p.tree .forward (opening p c)).head?).map (Found.ofState c) := by
  rw [← run_some_eq_head?]
  rfl

theorem mem_outcomes_of_matchAt {c : Cursor} {m : Found} (h : matchAt p c = some m) :
    ∃ s ∈ outcomes p.flags p.tree .forward (opening p c), m = Found.ofState c s := by
  rw [matchAt_eq_head?] at h
  obtain ⟨s, hs, rfl⟩ := Option.map_eq_some_iff.mp h
  exact ⟨s, List.mem_of_head? hs, rfl⟩

theorem matchAt_onward {c : Cursor} {m : Found} (h : matchAt p c = some m) :
    m.first = c ∧ m.first.Onward .forward m.stop := by
  obtain ⟨s, hs, rfl⟩ := mem_outcomes_of_matchAt h
  exact ⟨rfl, outcomes_onward hs⟩

theorem stepOver_onward {c next : Cursor} (h : stepOver p c = some next) :
    c.Onward .forward next ∧ c.index < next.index := by
  obtain ⟨⟨x, _⟩, hRead, rfl⟩ := Option.map_eq_some_iff.mp h
  exact Cursor.readForward_onward hRead

theorem stepOver_eq_none {c : Cursor} (h : c.after = []) : stepOver p c = none := by
  simp [stepOver, Cursor.readForward, Cursor.advance, h]

/-! ## The leftmost match -/

theorem searchIn_room (room other : Text) (c : Cursor) (hRoom : c.after.length ≤ room.length)
    (hOther : c.after.length ≤ other.length) : searchIn p room c = searchIn p other c := by
  have hStuck (c : Cursor) (hNil : c.after = []) (u : CodeUnit) (room : Text) :
      searchIn p (u :: room) c = matchAt p c := by
    rw [searchIn, stepOver_eq_none hNil]
    cases matchAt p c <;> rfl
  induction room generalizing other c with
  | nil =>
    cases other with
    | nil => rfl
    | cons u other =>
      rw [hStuck c (List.eq_nil_of_length_eq_zero (by simpa using hRoom)), searchIn]
  | cons v room ih =>
    cases other with
    | nil => rw [hStuck c (List.eq_nil_of_length_eq_zero (by simpa using hOther)), searchIn]
    | cons u other =>
      rw [searchIn, searchIn]
      cases hStep : stepOver p c with
      | none => rfl
      | some next =>
        obtain ⟨hOn, hIndex⟩ := stepOver_onward hStep
        have hLess : next.after.length < c.after.length := hOn.ahead_length_lt (by omega)
        simp only [List.length_cons] at hRoom hOther
        simp only [Option.bind_some, ih other next (by omega) (by omega)]

/-- The match at the cursor, or else the leftmost one from the next character on. -/
theorem find_eq (p : Pattern) (c : Cursor) :
    find p c = (matchAt p c).or ((stepOver p c).bind (find p)) := by
  cases hAfter : c.after with
  | nil =>
    rw [find, hAfter, searchIn, stepOver_eq_none hAfter]
    simp
  | cons u rest =>
    rw [find, hAfter, searchIn]
    cases matchAt p c with
    | some m => rfl
    | none =>
      cases hStep : stepOver p c with
      | none => rfl
      | some next =>
        obtain ⟨hOn, hIndex⟩ := stepOver_onward hStep
        have hLess : next.after.length < c.after.length := hOn.ahead_length_lt (by omega)
        rw [hAfter, List.length_cons] at hLess
        simp only [Option.bind_some, Option.none_or, find]
        exact searchIn_room rest next.after next (by omega) (Nat.le_refl _)

theorem find_some {c : Cursor} {m : Found} (h : find p c = some m) :
    c.Onward .forward m.first ∧ matchAt p m.first = some m := by
  induction hLength : c.after.length using Nat.strongRecOn generalizing c with
  | ind n ih =>
    rw [find_eq] at h
    rcases Option.or_eq_some_iff.mp h with h | ⟨-, h⟩
    · obtain ⟨hFirst, -⟩ := matchAt_onward h
      exact hFirst ▸ ⟨.refl _ _, hFirst.symm ▸ h⟩
    · obtain ⟨next, hStep, h⟩ := Option.bind_eq_some_iff.mp h
      obtain ⟨hOn, hIndex⟩ := stepOver_onward hStep
      have hLess : next.after.length < c.after.length := hOn.ahead_length_lt (by omega)
      obtain ⟨hOn', hMatch⟩ := ih next.after.length (hLength ▸ hLess) h rfl
      exact ⟨hOn.trans hOn', hMatch⟩

/-! ## All matches -/

/-- The matches from a place on, one after the other. -/
inductive Enumerates (p : Pattern) : Cursor → List Found → Prop
  | done {c : Cursor} (h : find p c = none) : Enumerates p c []
  | last {c : Cursor} {m : Found} (h : find p c = some m)
      (hStop : resume (stepOver p) m = none) : Enumerates p c [m]
  | more {c next : Cursor} {m : Found} {ms : List Found} (h : find p c = some m)
      (hNext : resume (stepOver p) m = some next) (hMore : Enumerates p next ms) :
      Enumerates p c (m :: ms)

theorem Enumerates.unique {c : Cursor} {ms others : List Found} (h : Enumerates p c ms)
    (hOther : Enumerates p c others) : ms = others := by
  induction h generalizing others with
  | done hFind =>
    cases hOther with
    | done => rfl
    | last hFind' | more hFind' => simp [hFind] at hFind'
  | last hFind hStop =>
    cases hOther with
    | done hFind' => simp [hFind] at hFind'
    | last hFind' => rw [Option.some.inj (hFind.symm.trans hFind')]
    | more hFind' hNext =>
      cases Option.some.inj (hFind.symm.trans hFind')
      simp [hStop] at hNext
  | more hFind hNext _ ih =>
    cases hOther with
    | done hFind' => simp [hFind] at hFind'
    | last hFind' hStop =>
      cases Option.some.inj (hFind.symm.trans hFind')
      simp [hNext] at hStop
    | more hFind' hNext' hMore =>
      cases Option.some.inj (hFind.symm.trans hFind')
      cases Option.some.inj (hNext.symm.trans hNext')
      rw [ih hMore]

theorem resume_onward {c next : Cursor} {m : Found} (h : find p c = some m)
    (hNext : resume (stepOver p) m = some next) :
    m.stop.Onward .forward next ∧ m.index < next.index ∧ c.Onward .forward next := by
  obtain ⟨hOn, hMatch⟩ := find_some h
  have hStop := (matchAt_onward hMatch).2
  have hLe : m.first.index ≤ m.stop.index := hStop.2
  rw [resume] at hNext
  split_ifs at hNext with hEmpty
  · obtain ⟨hStep, hIndex⟩ := stepOver_onward hNext
    refine ⟨hStep, ?_, hOn.trans (hStop.trans hStep)⟩
    show m.first.index < next.index
    omega
  · cases hNext
    refine ⟨.refl _ _, ?_, hOn.trans hStop⟩
    simp only [Found.isEmpty, beq_iff_eq] at hEmpty
    show m.first.index < m.stop.index
    omega

theorem enumerates_enumerate (room : Text) (c : Cursor) (h : c.after.length ≤ room.length) :
    Enumerates p c (enumerate (find p) (stepOver p) room c) := by
  induction room generalizing c with
  | nil =>
    have hNil : c.after = [] := List.eq_nil_of_length_eq_zero (by simpa using h)
    rw [enumerate]
    cases hFind : find p c with
    | none => exact .done hFind
    | some m =>
      refine .last hFind ?_
      by_contra hResume
      obtain ⟨next, hNext⟩ := Option.ne_none_iff_exists'.mp hResume
      obtain ⟨-, hIndex, hOn⟩ := resume_onward hFind hNext
      have hFirst := (find_some hFind).1.eq_of_ahead_nil hNil
      rw [hOn.eq_of_ahead_nil hNil, ← hFirst] at hIndex
      exact Nat.lt_irrefl _ hIndex
  | cons u room ih =>
    rw [enumerate]
    cases hFind : find p c with
    | none => exact .done hFind
    | some m =>
      cases hNext : resume (stepOver p) m with
      | none =>
        simp only [hNext]
        exact .last hFind hNext
      | some next =>
        obtain ⟨-, hIndex, hOn⟩ := resume_onward hFind hNext
        have hFirst : c.index ≤ m.index := (find_some hFind).1.2
        have hLess : next.after.length < c.after.length := hOn.ahead_length_lt (by omega)
        simp only [hNext]
        exact .more hFind hNext (ih next (by rw [List.length_cons] at h; omega))

theorem enumerates_scan (p : Pattern) (t : Text) : Enumerates p (Cursor.start t) (scan p t) :=
  enumerates_enumerate t _ (Nat.le_refl _)

theorem Enumerates.eq_scan {t : Text} {ms : List Found} (h : Enumerates p (Cursor.start t) ms) :
    ms = scan p t :=
  h.unique (enumerates_scan p t)

theorem Enumerates.mem {c : Cursor} {ms : List Found} (h : Enumerates p c ms) {m : Found}
    (hm : m ∈ ms) : c.Onward .forward m.first ∧ matchAt p m.first = some m := by
  induction h with
  | done => simp at hm
  | last hFind => exact List.mem_singleton.mp hm ▸ find_some hFind
  | more hFind hNext _ ih =>
    rcases List.mem_cons.mp hm with rfl | hm
    · exact find_some hFind
    · exact ⟨(resume_onward hFind hNext).2.2.trans (ih hm).1, (ih hm).2⟩

theorem Enumerates.pairwise {c : Cursor} {ms : List Found} (h : Enumerates p c ms) :
    ms.Pairwise fun m n => m.index < n.index ∧ m.stop.index ≤ n.index := by
  induction h with
  | done => exact .nil
  | last => exact List.pairwise_singleton _ _
  | more hFind hNext hMore ih =>
    refine List.pairwise_cons.mpr ⟨fun n hn => ?_, ih⟩
    obtain ⟨hStop, hIndex, -⟩ := resume_onward hFind hNext
    have hLater : _ ≤ n.index := (hMore.mem hn).1.2
    exact ⟨Nat.lt_of_lt_of_le hIndex hLater, Nat.le_trans hStop.2 hLater⟩

/-- Every match of a scan is the match at its place in the text. -/
theorem mem_scan {t : Text} {m : Found} (h : m ∈ scan p t) :
    m.first.text = t ∧ matchAt p m.first = some m := by
  obtain ⟨hOn, hMatch⟩ := (enumerates_scan p t).mem h
  exact ⟨hOn.1.trans (Cursor.text_start t), hMatch⟩

theorem scan_ne_nil {t : Text} {s : State}
    (h : s ∈ outcomes p.flags p.tree .forward (opening p (.start t))) : scan p t ≠ [] := by
  intro hScan
  have hNone := enumerates_scan p t
  rw [hScan] at hNone
  cases hNone with
  | done hFind =>
    rw [find_eq, Option.or_eq_none_iff, matchAt_eq_head?, Option.map_eq_none_iff,
      List.head?_eq_none_iff] at hFind
    rw [hFind.1] at h
    exact List.not_mem_nil h

/-- The matches of a scan stand from left to right, each from where the one before ends. -/
theorem scan_pairwise (p : Pattern) (t : Text) :
    (scan p t).Pairwise fun m n => m.index < n.index ∧ m.stop.index ≤ n.index :=
  (enumerates_scan p t).pairwise

end LogTriage.Pattern
