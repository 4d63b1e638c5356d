import LogTriage.Proofs.Pattern.Outcomes

/-! # Where outcomes stand

An outcome stands in the text that the match began in, and never behind its start in the direction of
reading. What remains to be read therefore bounds every repetition, and any room at least that large
gives the same outcomes.
-/

namespace LogTriage.Pattern

set_option autoImplicit false

namespace Cursor

theorem index_le_length (c : Cursor) : c.index ≤ c.text.length := by
  simp [text, c.index_eq]

theorem after_length (c : Cursor) : c.after.length = c.text.length - c.index := by
  simp [text, c.index_eq]

theorem eq_of_text_eq {a b : Cursor} (hText : a.text = b.text) (hIndex : a.index = b.index) :
    a = b := by
  have hLength : a.before.reverse.length = b.before.reverse.length := by
    simpa [a.index_eq, b.index_eq] using hIndex
  obtain ⟨hBefore, hAfter⟩ := List.append_inj hText hLength
  exact (ext_iff_parts a b).mpr ⟨List.reverse_injective hBefore, hAfter⟩

/-- In the same text, and not behind as `dir` goes. -/
def Onward (dir : Direction) (a b : Cursor) : Prop :=
  b.text = a.text ∧ match dir with
    | .forward => a.index ≤ b.index
    | .backward => b.index ≤ a.index

theorem Onward.refl (dir : Direction) (c : Cursor) : c.Onward dir c := by
  cases dir <;> exact ⟨rfl, Nat.le_refl _⟩

theorem Onward.trans {dir : Direction} {a b c : Cursor} (hab : a.Onward dir b)
    (hbc : b.Onward dir c) : a.Onward dir c := by
  refine ⟨hbc.1.trans hab.1, ?_⟩
  cases dir
  · exact Nat.le_trans hab.2 hbc.2
  · exact Nat.le_trans hbc.2 hab.2

theorem Onward.ahead_length_lt {dir : Direction} {a b : Cursor} (h : a.Onward dir b)
    (hNe : b.index ≠ a.index) : (b.ahead dir).length < (a.ahead dir).length := by
  obtain ⟨hText, hIndex⟩ := h
  have hB := b.index_le_length
  rw [hText] at hB
  cases dir
  · simp only [ahead, after_length, hText] at hIndex ⊢
    omega
  · simp only [ahead, ← index_eq] at hIndex ⊢
    omega

theorem Onward.eq_of_ahead_nil {dir : Direction} {a b : Cursor} (h : a.Onward dir b)
    (hNil : a.ahead dir = []) : b = a := by
  by_contra hNe
  have hIndex : b.index ≠ a.index := fun hIndex => hNe (eq_of_text_eq h.1 hIndex)
  have hLength := h.ahead_length_lt hIndex
  simp [hNil] at hLength

theorem advance_eq_some_iff {c next : Cursor} {u : CodeUnit} :
    c.advance = some (u, next) ↔ c.after = u :: next.after ∧ next.before = u :: c.before := by
  rw [advance]
  cases hAfter : c.after with
  | nil => simp
  | cons v rest =>
    simp only [Option.some.injEq, Prod.mk.injEq, List.cons.injEq]
    constructor
    · rintro ⟨rfl, rfl⟩
      exact ⟨⟨rfl, rfl⟩, rfl⟩
    · rintro ⟨⟨rfl, rfl⟩, hBefore⟩
      exact ⟨rfl, (ext_iff_parts _ _).mpr ⟨hBefore.symm, rfl⟩⟩

theorem retreat_eq_some_iff {c next : Cursor} {u : CodeUnit} :
    c.retreat = some (u, next) ↔ c.before = u :: next.before ∧ next.after = u :: c.after := by
  rw [retreat]
  split
  · rename_i hBefore
    simp [hBefore]
  · rename_i v rest hBefore
    simp only [Option.some.injEq, Prod.mk.injEq, hBefore, List.cons.injEq]
    constructor
    · rintro ⟨rfl, rfl⟩
      exact ⟨⟨rfl, rfl⟩, rfl⟩
    · rintro ⟨⟨rfl, rfl⟩, hAfter⟩
      exact ⟨rfl, (ext_iff_parts _ _).mpr ⟨rfl, hAfter.symm⟩⟩

theorem advance_onward {c next : Cursor} {u : CodeUnit} (h : c.advance = some (u, next)) :
    c.Onward .forward next ∧ next.index = c.index + 1 := by
  obtain ⟨hAfter, hBefore⟩ := advance_eq_some_iff.mp h
  have hIndex : next.index = c.index + 1 := by simp [index_eq, hBefore]
  refine ⟨⟨?_, by simp only [hIndex]; omega⟩, hIndex⟩
  simp [text, hAfter, hBefore]

theorem retreat_onward {c next : Cursor} {u : CodeUnit} (h : c.retreat = some (u, next)) :
    c.Onward .backward next ∧ c.index = next.index + 1 := by
  obtain ⟨hBefore, hAfter⟩ := retreat_eq_some_iff.mp h
  have hIndex : c.index = next.index + 1 := by simp [index_eq, hBefore]
  refine ⟨⟨?_, by simp only [hIndex]; omega⟩, hIndex⟩
  simp [text, hAfter, hBefore]

theorem readForward_onward {wide : Bool} {c next : Cursor} {x : Nat}
    (h : c.readForward wide = some (x, next)) : c.Onward .forward next ∧ c.index < next.index := by
  rw [readForward] at h
  cases hFirst : c.advance with
  | none => simp [hFirst] at h
  | some first =>
    obtain ⟨hOn, hIndex⟩ := advance_onward hFirst
    cases hSecond : first.2.advance with
    | none =>
      simp only [hFirst, hSecond, ite_self, Option.some.injEq, Prod.mk.injEq] at h
      obtain ⟨-, rfl⟩ := h
      exact ⟨hOn, by omega⟩
    | some second =>
      obtain ⟨hOn', hIndex'⟩ := advance_onward hSecond
      simp only [hFirst, hSecond] at h
      split_ifs at h <;> obtain ⟨-, rfl⟩ := Prod.mk.inj (Option.some.inj h)
      · exact ⟨hOn.trans hOn', by omega⟩
      · exact ⟨hOn, by omega⟩
      · exact ⟨hOn, by omega⟩

theorem readBackward_onward {wide : Bool} {c next : Cursor} {x : Nat}
    (h : c.readBackward wide = some (x, next)) :
    c.Onward .backward next ∧ next.index < c.index := by
  rw [readBackward] at h
  cases hFirst : c.retreat with
  | none => simp [hFirst] at h
  | some first =>
    obtain ⟨hOn, hIndex⟩ := retreat_onward hFirst
    cases hSecond : first.2.retreat with
    | none =>
      simp only [hFirst, hSecond, ite_self, Option.some.injEq, Prod.mk.injEq] at h
      obtain ⟨-, rfl⟩ := h
      exact ⟨hOn, by omega⟩
    | some second =>
      obtain ⟨hOn', hIndex'⟩ := retreat_onward hSecond
      simp only [hFirst, hSecond] at h
      split_ifs at h <;> obtain ⟨-, rfl⟩ := Prod.mk.inj (Option.some.inj h)
      · exact ⟨hOn.trans hOn', by omega⟩
      · exact ⟨hOn, by omega⟩
      · exact ⟨hOn, by omega⟩

theorem read_onward {wide : Bool} {dir : Direction} {c next : Cursor} {x : Nat}
    (h : c.read wide dir = some (x, next)) : c.Onward dir next := by
  cases dir
  · exact (readForward_onward h).1
  · exact (readBackward_onward h).1

end Cursor

theorem State.cursor_clear (s : State) (inner : GroupSpan) :
    (s.clear inner).cursor = s.cursor := by
  rw [State.clear]
  split_ifs <;> rfl

namespace Matcher

theorem readChars_onward {f : Flags} {dir : Direction} {ds : List Nat} {c next : Cursor}
    (h : readChars f dir ds c = some next) : c.Onward dir next := by
  induction ds generalizing c with
  | nil =>
    cases h
    exact Cursor.Onward.refl dir _
  | cons d ds ih =>
    rw [readChars] at h
    cases hRead : c.read f.unicode dir with
    | none => simp [hRead] at h
    | some found =>
      simp only [hRead] at h
      split_ifs at h
      exact (Cursor.read_onward hRead).trans (ih h)

theorem readAgain_onward {f : Flags} {dir : Direction} {t : Text} {c next : Cursor}
    (h : readAgain f dir t c = some next) : c.Onward dir next := by
  cases dir <;> exact readChars_onward h

theorem exactlyOutcomes_induct {R : State → State → Prop} {round : State → List State}
    (refl : ∀ s, R s s) (trans : ∀ a b c, R a b → R b c → R a c)
    (h : ∀ s, ∀ s' ∈ round s, R s s') (n : Nat) (s s' : State)
    (hs : s' ∈ exactlyOutcomes round n s) : R s s' := by
  induction n generalizing s with
  | zero =>
    rw [exactlyOutcomes, List.mem_singleton] at hs
    exact hs ▸ refl s
  | succ n ih =>
    obtain ⟨m, hm, hs⟩ := List.mem_flatMap.mp hs
    exact trans _ _ _ (h s m hm) (ih m hs)

theorem upToOutcomes_induct {R : State → State → Prop} {round : State → List State}
    (refl : ∀ s, R s s) (trans : ∀ a b c, R a b → R b c → R a c)
    (h : ∀ s, ∀ s' ∈ round s, R s s') (greedy : Bool) (room : Text) (most : Option Nat)
    (s s' : State) (hs : s' ∈ upToOutcomes round greedy room most s) : R s s' := by
  induction room generalizing most s with
  | nil =>
    rw [upToOutcomes, List.mem_singleton] at hs
    exact hs ▸ refl s
  | cons u room ih =>
    have hCases : s' = s ∨ ∃ m ∈ round s, s' ∈ upToOutcomes round greedy room
        (most.map (· - 1)) m := by
      rw [upToOutcomes] at hs
      split_ifs at hs
      · exact .inl (List.mem_singleton.mp hs)
      · simp only [List.mem_append, List.mem_flatMap, List.mem_filter, List.mem_singleton] at hs
        rcases hs with ⟨m, hm, hs⟩ | hs
        · exact .inr ⟨m, hm.1, hs⟩
        · exact .inl hs
      · simp only [List.mem_cons, List.mem_flatMap, List.mem_filter] at hs
        rcases hs with hs | ⟨m, hm, hs⟩
        · exact .inl hs
        · exact .inr ⟨m, hm.1, hs⟩
    rcases hCases with rfl | ⟨m, hm, hs⟩
    · exact refl s'
    · exact trans _ _ _ (h s m hm) (ih _ m hs)

theorem outcomes_onward {f : Flags} {tree : Tree} {dir : Direction} {s s' : State}
    (h : s' ∈ outcomes f tree dir s) : s.cursor.Onward dir s'.cursor := by
  induction tree generalizing dir s s' with
  | empty =>
    rw [outcomes, List.mem_singleton] at h
    exact h ▸ .refl dir _
  | char test =>
    rw [outcomes] at h
    cases hRead : s.cursor.read f.unicode dir with
    | none => simp [hRead] at h
    | some found =>
      simp only [hRead] at h
      split_ifs at h
      · rw [List.mem_singleton.mp h]
        exact Cursor.read_onward hRead
      · simp at h
  | seq a b iha ihb =>
    cases dir <;> obtain ⟨m, hm, h⟩ := List.mem_flatMap.mp h
    · exact (iha hm).trans (ihb h)
    · exact (ihb hm).trans (iha h)
  | alt a b iha ihb =>
    rcases List.mem_append.mp h with h | h
    · exact iha h
    · exact ihb h
  | group index body ih =>
    obtain ⟨m, hm, rfl⟩ := List.mem_map.mp h
    exact (ih hm : s.cursor.Onward dir m.cursor)
  | reference index =>
    rw [outcomes] at h
    cases hGroup : s.group index with
    | none =>
      simp only [hGroup, List.mem_singleton] at h
      exact h ▸ .refl dir _
    | some t =>
      cases hNext : readAgain f dir t s.cursor with
      | none => simp [hGroup, hNext] at h
      | some next =>
        simp only [hGroup, hNext, List.mem_singleton] at h
        rw [h]
        exact readAgain_onward hNext
  | assertion a =>
    rw [outcomes] at h
    split_ifs at h
    · exact List.mem_singleton.mp h ▸ .refl dir _
    · simp at h
  | look ahead negated body ih =>
    rw [outcomes] at h
    have hCursor : s'.cursor = s.cursor := by
      split at h <;> split_ifs at h <;> simp_all
    exact hCursor ▸ .refl dir _
  | repeated body least most greedy inner ih =>
    obtain ⟨m, hm, h⟩ := List.mem_flatMap.mp h
    have hRound (s s' : State) (h : s' ∈ outcomes f body dir (s.clear inner)) :
        s.cursor.Onward dir s'.cursor := s.cursor_clear inner ▸ ih h
    have hTrans := fun (a b c : State) (hab : a.cursor.Onward dir b.cursor)
      (hbc : b.cursor.Onward dir c.cursor) => hab.trans hbc
    exact (exactlyOutcomes_induct (fun s => .refl dir _) hTrans hRound least s m hm).trans
      (upToOutcomes_induct (fun s => .refl dir _) hTrans hRound greedy _ _ m s' h)

theorem upToOutcomes_room {round : State → List State} {dir : Direction}
    (h : ∀ s, ∀ s' ∈ round s, s.cursor.Onward dir s'.cursor) (greedy : Bool)
    (room other : Text) (most : Option Nat) (s : State)
    (hRoom : (s.cursor.ahead dir).length ≤ room.length)
    (hOther : (s.cursor.ahead dir).length ≤ other.length) :
    upToOutcomes round greedy room most s = upToOutcomes round greedy other most s := by
  have hStuck (s : State) (hNil : s.cursor.ahead dir = []) (u : CodeUnit) (room : Text)
      (most : Option Nat) : upToOutcomes round greedy (u :: room) most s = [s] := by
    have hFilter : (round s).filter (·.cursor.index ≠ s.cursor.index) = [] := by
      rw [List.filter_eq_nil_iff]
      intro s' hs'
      simp [(h s s' hs').eq_of_ahead_nil hNil]
    rw [upToOutcomes, hFilter]
    split_ifs <;> rfl
  induction room generalizing other most s with
  | nil =>
    cases other with
    | nil => rfl
    | cons u other =>
      rw [hStuck s (List.eq_nil_of_length_eq_zero (by simpa using hRoom)), upToOutcomes]
  | cons v room ih =>
    cases other with
    | nil => rw [hStuck s (List.eq_nil_of_length_eq_zero (by simpa using hOther)), upToOutcomes]
    | cons u other =>
      have hAgain : ((round s).filter (·.cursor.index ≠ s.cursor.index)).flatMap
            (upToOutcomes round greedy room (most.map (· - 1))) =
          ((round s).filter (·.cursor.index ≠ s.cursor.index)).flatMap
            (upToOutcomes round greedy other (most.map (· - 1))) := by
        apply List.flatMap_congr
        intro s' hs'
        obtain ⟨hMem, hNe⟩ := List.mem_filter.mp hs'
        have hLess := (h s s' hMem).ahead_length_lt (by simpa using hNe)
        simp only [List.length_cons] at hRoom hOther
        exact ih other _ s' (by omega) (by omega)
      rw [upToOutcomes, upToOutcomes, hAgain]

end Matcher
end LogTriage.Pattern
