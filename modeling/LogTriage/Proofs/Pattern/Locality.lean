import LogTriage.Pattern.CharSet
import LogTriage.Proofs.Pattern.Scan

/-! # Patterns that stay on their line

A tree that reads no newline, looks at no character behind its anchors and takes every line end for a
boundary cannot tell a line by itself from the same line in a text. The scan of a text is then the scans
of its lines, one after the other.
-/

namespace LogTriage.Pattern

set_option autoImplicit false

/-- No newline is read, and what is asked about the surroundings has one answer at a newline and at the
end of the text. Looking back and reading a group again are left out. -/
def Tree.staysOnLine (f : Flags) : Tree → Bool
  | .empty => true
  | .char test => !test.accepts f Text.newline.toNat
  | .seq a b | .alt a b => a.staysOnLine f && b.staysOnLine f
  | .group _ body => body.staysOnLine f
  | .reference _ => false
  | .assertion (.boundary _) => true
  | .assertion _ => f.multiline
  | .look ahead _ body => ahead && body.staysOnLine f
  | .repeated body _ _ _ _ => body.staysOnLine f

/-- What stands around some lines of a text: the units above, nearest first, and those below. -/
structure Margin where
  above : Text
  below : Text
  above_head : ∀ u ∈ above.head?, u = Text.newline
  below_head : ∀ u ∈ below.head?, u = Text.newline

variable (e : Margin)

def Cursor.within (c : Cursor) : Cursor :=
  ⟨c.before ++ e.above, c.after ++ e.below, c.index + e.above.length, by simp [c.index_eq]⟩

def State.within (s : State) : State := ⟨s.cursor.within e, s.groups⟩

def Found.within (m : Found) : Found := ⟨m.first.within e, m.stop.within e, m.groups⟩

namespace Cursor

theorem index_within (c : Cursor) : (c.within e).index = c.index + e.above.length := rfl

theorem text_within (c : Cursor) :
    (c.within e).text = e.above.reverse ++ c.text ++ e.below := by
  simp [text, within]

theorem between_within {a b : Cursor} (h : a.Onward .forward b) :
    (a.within e).between (b.within e) = a.between b := by
  obtain ⟨hText, hIndex⟩ := h
  have hIndex : a.index ≤ b.index := hIndex
  have hLength : b.index - a.index ≤ a.after.length := by
    have hLe := b.index_le_length
    rw [hText] at hLe
    rw [a.after_length]
    omega
  have hLe : (a.within e).index ≤ (b.within e).index := by
    rw [index_within, index_within]
    omega
  have hSub : (b.within e).index - (a.within e).index = b.index - a.index := by
    rw [index_within, index_within]
    omega
  rw [between, between, if_pos hLe, if_pos hIndex, hSub]
  exact List.take_append_of_le_length hLength

theorem readForward_within {c next : Cursor} {x : Nat}
    (h : c.readForward false = some (x, next)) :
    (c.within e).readForward false = some (x, next.within e) := by
  rw [readForward, advance] at h
  cases hAfter : c.after with
  | nil => simp [hAfter] at h
  | cons u rest =>
    simp only [hAfter, Bool.false_and, Bool.false_eq_true, if_false, Option.some.injEq,
      Prod.mk.injEq] at h
    obtain ⟨rfl, rfl⟩ := h
    have hWithin : (c.within e).after = u :: (rest ++ e.below) := by simp [within, hAfter]
    simp only [readForward, advance, hWithin, Bool.false_and, Bool.false_eq_true, if_false,
      Option.some.injEq, Prod.mk.injEq, true_and]
    exact (ext_iff_parts _ _).mpr ⟨rfl, rfl⟩

/-- From the end of the line the only step leads over a newline. -/
theorem readForward_within_end {c next : Cursor} {x : Nat}
    (h : c.readForward false = none) (hRead : (c.within e).readForward false = some (x, next)) :
    x = Text.newline.toNat := by
  rw [readForward, advance] at h hRead
  cases hAfter : c.after with
  | cons u rest => simp [hAfter] at h
  | nil =>
    cases hBelow : e.below with
    | nil => simp [within, hAfter, hBelow] at hRead
    | cons u rest =>
      have hNewline : u = Text.newline := e.below_head u (by simp [hBelow])
      simp only [within, hAfter, hBelow, List.nil_append, Bool.false_and, Bool.false_eq_true,
        if_false, Option.some.injEq, Prod.mk.injEq] at hRead
      rw [← hRead.1, hNewline]

end Cursor

namespace Matcher

variable {f : Flags}

/-! ## Outcomes on a line -/

theorem headIs_append {p : Nat → Bool} (hEnd : p Text.newline.toNat = false) {t rest : Text}
    (hHead : ∀ u ∈ rest.head?, u = Text.newline) : headIs p (t ++ rest) = headIs p t := by
  cases t with
  | cons u t => rfl
  | nil =>
    cases rest with
    | nil => rfl
    | cons u rest =>
      obtain rfl := hHead u rfl
      simpa [headIs] using hEnd

theorem ends_append {t rest : Text} (hHead : ∀ u ∈ rest.head?, u = Text.newline) :
    ((t ++ rest).isEmpty || headIs Text.isLineEnd (t ++ rest)) =
      (t.isEmpty || headIs Text.isLineEnd t) := by
  cases t with
  | cons u t => rfl
  | nil =>
    cases rest with
    | nil => rfl
    | cons u rest =>
      obtain rfl := hHead u rfl
      rfl

theorem isWord_newline (f : Flags) : f.isWord Text.newline.toNat = false := by
  simp [Flags.isWord, isAsciiWord, Text.newline]

theorem holds_within {a : Assertion} (hStay : (Tree.assertion a).staysOnLine f = true)
    (c : Cursor) : holds f a (c.within e) = holds f a c := by
  cases a with
  | start =>
    have hMultiline : f.multiline = true := hStay
    simp only [holds, hMultiline, Bool.true_and]
    exact ends_append e.above_head
  | stop =>
    have hMultiline : f.multiline = true := hStay
    simp only [holds, hMultiline, Bool.true_and]
    exact ends_append e.below_head
  | boundary negated =>
    have hEnd := isWord_newline f
    rw [holds, holds, Cursor.within, headIs_append hEnd e.above_head,
      headIs_append hEnd e.below_head]

theorem clear_within (s : State) (inner : GroupSpan) :
    (s.within e).clear inner = (s.clear inner).within e := by
  rw [State.clear, State.clear]
  split_ifs <;> rfl

theorem exactlyOutcomes_within {round : State → List State}
    (h : ∀ s, round (s.within e) = (round s).map (State.within e)) (n : Nat) (s : State) :
    exactlyOutcomes round n (s.within e) = (exactlyOutcomes round n s).map (State.within e) := by
  induction n generalizing s with
  | zero => rfl
  | succ n ih =>
    rw [exactlyOutcomes, exactlyOutcomes, h, List.flatMap_map, List.map_flatMap]
    exact List.flatMap_congr fun s' _ => ih s'

theorem upToOutcomes_within {round : State → List State}
    (h : ∀ s, round (s.within e) = (round s).map (State.within e)) (greedy : Bool) (room : Text)
    (most : Option Nat) (s : State) :
    upToOutcomes round greedy room most (s.within e) =
      (upToOutcomes round greedy room most s).map (State.within e) := by
  induction room generalizing most s with
  | nil => rfl
  | cons u room ih =>
    have hFilter : ((round s).map (State.within e)).filter
          (·.cursor.index ≠ (s.within e).cursor.index) =
        ((round s).filter (·.cursor.index ≠ s.cursor.index)).map (State.within e) := by
      rw [List.filter_map]
      congr 2
      funext s'
      simp [State.within, Cursor.index_within]
    have hAgain : (((round (s.within e)).filter (·.cursor.index ≠ (s.within e).cursor.index)).flatMap
          (upToOutcomes round greedy room (most.map (· - 1)))) =
        (((round s).filter (·.cursor.index ≠ s.cursor.index)).flatMap
          (upToOutcomes round greedy room (most.map (· - 1)))).map (State.within e) := by
      rw [h, hFilter, List.flatMap_map, List.map_flatMap]
      exact List.flatMap_congr fun s' _ => ih _ s'
    rw [upToOutcomes, upToOutcomes, hAgain]
    split_ifs <;> simp

/-- On a line in a text a tree has the outcomes that it has on the line alone. -/
theorem outcomes_within (hUnicode : f.unicode = false) {tree : Tree}
    (hStay : tree.staysOnLine f = true) (s : State) :
    outcomes f tree .forward (s.within e) = (outcomes f tree .forward s).map (State.within e) := by
  induction tree generalizing s with
  | empty => rfl
  | char test =>
    have hStay : test.accepts f Text.newline.toNat = false := by
      simpa [Tree.staysOnLine] using hStay
    rw [outcomes, outcomes, hUnicode]
    cases hRead : s.cursor.readForward false with
    | some found =>
      obtain ⟨x, next⟩ := found
      have hWithin := Cursor.readForward_within e hRead
      simp only [Cursor.read, State.within, hRead, hWithin]
      split_ifs <;> rfl
    | none =>
      cases hWithin : (s.cursor.within e).readForward false with
      | none => simp [Cursor.read, State.within, hRead, hWithin]
      | some found =>
        obtain ⟨x, next⟩ := found
        obtain rfl := Cursor.readForward_within_end e hRead hWithin
        simp [Cursor.read, State.within, hRead, hWithin, hStay]
  | seq a b iha ihb =>
    simp only [Tree.staysOnLine, Bool.and_eq_true] at hStay
    rw [outcomes, outcomes, iha hStay.1, List.flatMap_map, List.map_flatMap]
    exact List.flatMap_congr fun s' _ => ihb hStay.2 s'
  | alt a b iha ihb =>
    simp only [Tree.staysOnLine, Bool.and_eq_true] at hStay
    rw [outcomes, outcomes, iha hStay.1, ihb hStay.2, List.map_append]
  | group index body ih =>
    rw [outcomes, outcomes, ih hStay, List.map_map, List.map_map]
    refine List.map_congr_left fun s' hs' => ?_
    have hBetween := Cursor.between_within e (outcomes_onward hs')
    simp only [Function.comp_apply, State.setGroup, State.within, hBetween]
  | reference index => simp [Tree.staysOnLine] at hStay
  | assertion a =>
    have hHolds : holds f a (s.within e).cursor = holds f a s.cursor :=
      holds_within e hStay s.cursor
    rw [outcomes, outcomes, hHolds]
    split_ifs <;> rfl
  | look ahead negated body ih =>
    simp only [Tree.staysOnLine, Bool.and_eq_true] at hStay
    obtain ⟨rfl, hStay⟩ := hStay
    rw [outcomes, outcomes, if_pos rfl, ih hStay]
    cases outcomes f body .forward s with
    | nil => cases negated <;> rfl
    | cons s' more => cases negated <;> rfl
  | repeated body least most greedy inner ih =>
    have hRound (s : State) : outcomes f body .forward ((s.within e).clear inner) =
        (outcomes f body .forward (s.clear inner)).map (State.within e) := by
      rw [clear_within]
      exact ih hStay _
    have hOnward (s : State) : ∀ s' ∈ outcomes f body .forward (s.clear inner),
        s.cursor.Onward .forward s'.cursor :=
      fun s' hs' => s.cursor_clear inner ▸ outcomes_onward hs'
    simp only [outcomes]
    rw [exactlyOutcomes_within e hRound, List.flatMap_map, List.map_flatMap]
    refine List.flatMap_congr fun s' _ => ?_
    -- In the text there is more ahead than on the line, so the bounds on the rounds differ.
    rw [upToOutcomes_within e hRound]
    refine congrArg (List.map (State.within e)) ?_
    refine upToOutcomes_room hOnward greedy _ _ _ s' ?_ (Nat.le_refl _)
    simp [State.within, Cursor.within, Cursor.ahead]

end Matcher
end LogTriage.Pattern
