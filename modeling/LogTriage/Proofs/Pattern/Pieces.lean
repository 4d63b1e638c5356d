import LogTriage.Proofs.Pattern.Reads

/-! # Pieces of a pattern

What a row of pieces reads, piece by piece: words written out, runs of one kind of character, pieces that
may be left out. Two runs that are followed by something else are equal where their texts are.
-/

namespace LogTriage.Pattern

set_option autoImplicit false

variable {f : Flags} {before w after : Text} {pieces : List Tree} {test : CharTest}

namespace Matcher

/-- What comes first in a row of pieces can be looked at by itself. -/
theorem outcomes_ofPieces_append (pieces more : List Tree) (s : State) :
    outcomes f (.ofPieces (pieces ++ more)) .forward s =
      (outcomes f (.ofPieces pieces) .forward s).flatMap (outcomes f (.ofPieces more) .forward) := by
  have hCons (piece : Tree) (rest : List Tree) (s : State) :
      outcomes f (.ofPieces (piece :: rest)) .forward s =
        (outcomes f piece .forward s).flatMap (outcomes f (.ofPieces rest) .forward) := by
    cases rest with
    | nil =>
      simp only [Tree.ofPieces, outcomes]
      exact (List.flatMap_singleton' _).symm
    | cons next rest => rfl
  induction pieces generalizing s with
  | nil => simp [Tree.ofPieces, outcomes]
  | cons piece pieces ih =>
    rw [List.cons_append, hCons, hCons, List.flatMap_assoc]
    exact List.flatMap_congr fun t _ => ih t

end Matcher

namespace Tree

/-- The characters of a text, one after the other. -/
def word (t : Text) : List Tree := t.map fun u => .char (.literal u.toNat)

theorem reads_char : (char test).Reads f before w after ↔
    ∃ u, w = [u] ∧ test.accepts f u.toNat = true := Iff.rfl

theorem reads_seq {a b : Tree} : (seq a b).Reads f before w after ↔
    (a.Reads f).andThen (b.Reads f) before w after := Iff.rfl

theorem reads_alt {a b : Tree} : (alt a b).Reads f before w after ↔
    a.Reads f before w after ∨ b.Reads f before w after := Iff.rfl

theorem ofPieces_singleton (piece : Tree) : ofPieces [piece] = piece := rfl

theorem reads_ofPieces_cons {piece : Tree} : (ofPieces (piece :: pieces)).Reads f before w after ↔
    (piece.Reads f).andThen ((ofPieces pieces).Reads f) before w after := by
  cases pieces with
  | cons next rest => rfl
  | nil =>
    constructor
    · intro h
      exact ⟨w, [], (List.append_nil w).symm, h, rfl⟩
    · rintro ⟨v, _, rfl, h, rfl⟩
      rwa [List.append_nil]

theorem reads_ofPieces_append {more : List Tree} : (ofPieces (pieces ++ more)).Reads f before w after ↔
    ((ofPieces pieces).Reads f).andThen ((ofPieces more).Reads f) before w after := by
  induction pieces generalizing before w with
  | nil =>
    constructor
    · intro h
      exact ⟨[], w, rfl, rfl, h⟩
    · rintro ⟨_, _, rfl, rfl, h⟩
      exact h
  | cons piece pieces ih =>
    rw [List.cons_append, reads_ofPieces_cons]
    constructor
    · rintro ⟨v, _, rfl, hPiece, h⟩
      obtain ⟨x, y, rfl, hPieces, hMore⟩ := ih.mp h
      refine ⟨v ++ x, y, (List.append_assoc v x y).symm, reads_ofPieces_cons.mpr ?_, ?_⟩
      · exact ⟨v, x, rfl, by rwa [← List.append_assoc], hPieces⟩
      · rwa [List.reverse_append, List.append_assoc]
    · rintro ⟨_, y, rfl, hPieces, hMore⟩
      obtain ⟨v, x, rfl, hPiece, hPieces⟩ := reads_ofPieces_cons.mp hPieces
      refine ⟨v, x ++ y, List.append_assoc v x y, by rwa [List.append_assoc], ih.mpr ?_⟩
      refine ⟨x, y, rfl, hPieces, ?_⟩
      rwa [List.reverse_append, List.append_assoc] at hMore

theorem reads_word (hCase : f.ignoreCase = false) (t : Text) :
    (ofPieces (word t)).Reads f before w after ↔ w = t := by
  induction t generalizing before w with
  | nil => exact Iff.rfl
  | cons u t ih =>
    have hChar {before v after : Text} :
        (char (.literal u.toNat)).Reads f before v after ↔ v = [u] := by
      simp only [Reads, CharTest.accepts_literal_iff hCase, UInt16.toNat_inj, exists_eq_right]
    rw [word, List.map_cons, reads_ofPieces_cons]
    constructor
    · rintro ⟨v, z, rfl, hHead, hMore⟩
      rw [hChar.mp hHead, ih.mp hMore]
      rfl
    · rintro rfl
      exact ⟨[u], t, rfl, hChar.mpr rfl, ih.mpr rfl⟩

theorem rounds_char {n : Nat} : ((char test).Reads f).rounds n before w after ↔
    w.length = n ∧ ∀ u ∈ w, test.accepts f u.toNat = true := by
  induction n generalizing before w with
  | zero =>
    rw [Reading.rounds, List.length_eq_zero_iff]
    constructor
    · rintro rfl
      exact ⟨rfl, by simp⟩
    · exact And.left
  | succ n ih =>
    constructor
    · rintro ⟨_, z, rfl, ⟨u, rfl, hAccepts⟩, h⟩
      obtain ⟨rfl, hAll⟩ := ih.mp h
      exact ⟨rfl, List.forall_mem_cons.mpr ⟨hAccepts, hAll⟩⟩
    · rintro ⟨hLength, hAll⟩
      obtain ⟨u, z, rfl⟩ := List.exists_cons_of_length_eq_add_one hLength
      obtain ⟨hAccepts, hAll⟩ := List.forall_mem_cons.mp hAll
      exact ⟨[u], z, rfl, ⟨u, rfl, hAccepts⟩, ih.mpr ⟨Nat.succ.inj hLength, hAll⟩⟩

theorem reads_run {least : Nat} {most : Option Nat} {greedy : Bool} {inner : GroupSpan} :
    (repeated (char test) least most greedy inner).Reads f before w after ↔
      (∀ u ∈ w, test.accepts f u.toNat = true) ∧ least ≤ w.length ∧ ∀ m ∈ most, w.length ≤ m := by
  constructor
  · rintro ⟨n, hLeast, hMost, h⟩
    obtain ⟨rfl, hAll⟩ := rounds_char.mp h
    exact ⟨hAll, hLeast, hMost⟩
  · rintro ⟨hAll, hLeast, hMost⟩
    exact ⟨w.length, hLeast, hMost, rounds_char.mpr ⟨rfl, hAll⟩⟩

theorem reads_optional {body : Tree} {greedy : Bool} {inner : GroupSpan} :
    (repeated body 0 (some 1) greedy inner).Reads f before w after ↔
      w = [] ∨ body.Reads f before w after := by
  constructor
  · rintro ⟨n, -, hMost, h⟩
    have hLe := hMost 1 rfl
    obtain rfl | rfl : n = 0 ∨ n = 1 := by omega
    · exact .inl h
    · obtain ⟨v, _, rfl, h, rfl⟩ := h
      rw [List.append_nil]
      exact .inr h
  · rintro (h | h)
    · exact ⟨0, Nat.le_refl 0, by simp, h⟩
    · exact ⟨1, Nat.zero_le 1, by simp, w, [], (List.append_nil w).symm, h, rfl⟩

theorem reads_ahead {body : Tree} : (look true false body).Reads f before w after ↔
    w = [] ∧ ∃ v z, after = v ++ z ∧ body.Reads f before v z := by
  simp [Reads]

theorem reads_notAhead {body : Tree} : (look true true body).Reads f before w after ↔
    w = [] ∧ ¬ ∃ v z, after = v ++ z ∧ body.Reads f before v z := by
  simp [Reads]

theorem reads_ofAlternatives {choices : List Tree} (h : choices ≠ []) :
    (ofAlternatives choices).Reads f before w after ↔ ∃ tree ∈ choices, tree.Reads f before w after := by
  induction choices with
  | nil => exact absurd rfl h
  | cons choice more ih =>
    rw [List.exists_mem_cons_iff]
    cases more with
    | nil => simp [ofAlternatives]
    | cons next more =>
      rw [← ih (List.cons_ne_nil next more)]
      rfl

theorem reads_choice (hCase : f.ignoreCase = false) {choices : List Text} (h : choices ≠ []) :
    (ofAlternatives (choices.map fun t => .ofPieces (word t))).Reads f before w after ↔ w ∈ choices := by
  rw [reads_ofAlternatives (by simpa using h)]
  constructor
  · rintro ⟨_, hTree, hReads⟩
    obtain ⟨t, hMem, rfl⟩ := List.mem_map.mp hTree
    exact (reads_word hCase t).mp hReads ▸ hMem
  · intro hMem
    exact ⟨_, List.mem_map_of_mem hMem, (reads_word hCase w).mpr rfl⟩

end Tree

/-! ## Runs -/

/-- A run ends where something else follows. -/
theorem run_unique {p : CodeUnit → Prop} {xs ys xs' ys' : Text} (h : xs ++ ys = xs' ++ ys')
    (hRun : ∀ u ∈ xs, p u) (hEnd : ∀ u ∈ ys.head?, ¬ p u) (hRun' : ∀ u ∈ xs', p u)
    (hEnd' : ∀ u ∈ ys'.head?, ¬ p u) : xs = xs' ∧ ys = ys' := by
  induction xs generalizing xs' with
  | nil =>
    cases xs' with
    | nil => exact ⟨rfl, h⟩
    | cons v xs' =>
      obtain rfl : ys = v :: (xs' ++ ys') := h
      exact absurd (hRun' v List.mem_cons_self) (hEnd v rfl)
  | cons u xs ih =>
    cases xs' with
    | nil =>
      obtain rfl : u :: (xs ++ ys) = ys' := h
      exact absurd (hRun u List.mem_cons_self) (hEnd' u rfl)
    | cons v xs' =>
      simp only [List.cons_append, List.cons.injEq] at h
      obtain ⟨rfl, h⟩ := h
      obtain ⟨rfl, rfl⟩ := ih h (fun w hw => hRun w (List.mem_cons_of_mem u hw))
        fun w hw => hRun' w (List.mem_cons_of_mem u hw)
      exact ⟨rfl, rfl⟩

/-- The same from the other end. -/
theorem run_unique_last {p : CodeUnit → Prop} {xs ys xs' ys' : Text} (h : xs ++ ys = xs' ++ ys')
    (hRun : ∀ u ∈ ys, p u) (hEnd : ∀ u ∈ xs.getLast?, ¬ p u) (hRun' : ∀ u ∈ ys', p u)
    (hEnd' : ∀ u ∈ xs'.getLast?, ¬ p u) : xs = xs' ∧ ys = ys' := by
  have hReverse : ys.reverse ++ xs.reverse = ys'.reverse ++ xs'.reverse := by
    rw [← List.reverse_append, ← List.reverse_append, h]
  obtain ⟨hYs, hXs⟩ := run_unique hReverse (by simpa using hRun) (by simpa using hEnd)
    (by simpa using hRun') (by simpa using hEnd')
  exact ⟨List.reverse_injective hXs, List.reverse_injective hYs⟩

end LogTriage.Pattern
