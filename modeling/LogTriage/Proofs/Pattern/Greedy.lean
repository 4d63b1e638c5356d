import LogTriage.Proofs.Pattern.Pieces

/-! # Greedy pieces

A greedy run of one kind of character tries its longest text first, so what follows is read as far on as
it can be read at all. A greedy repetition goes on with the first outcome of each round for as long as
there is one.
-/

namespace LogTriage.Pattern

set_option autoImplicit false

/-- Whoever reads further comes first. -/
def FarthestFirst (l : List State) : Prop := l.Pairwise fun a b => b.cursor.index < a.cursor.index

theorem FarthestFirst.of_length_le_one {l : List State} (h : l.length ≤ 1) : FarthestFirst l := by
  match l, h with
  | [], _ => exact .nil
  | [s], _ => exact List.pairwise_singleton _ s

/-- Of all the states that can go on, the farthest does. -/
theorem FarthestFirst.exists_of_head? {l : List State} (h : FarthestFirst l) {next : State → List State}
    {s : State} (hHead : (l.flatMap next).head? = some s) :
    ∃ a ∈ l, (next a).head? = some s ∧ ∀ b ∈ l, next b ≠ [] → b.cursor.index ≤ a.cursor.index := by
  induction l with
  | nil => simp at hHead
  | cons a l ih =>
    obtain ⟨hLater, h⟩ := List.pairwise_cons.mp h
    rw [List.flatMap_cons] at hHead
    cases hNext : next a with
    | nil =>
      rw [hNext, List.nil_append] at hHead
      obtain ⟨c, hc, hFirst, hMost⟩ := ih h hHead
      refine ⟨c, List.mem_cons_of_mem a hc, hFirst, ?_⟩
      intro b hb hSome
      rcases List.mem_cons.mp hb with rfl | hb
      · exact absurd hNext hSome
      · exact hMost b hb hSome
    | cons t more =>
      rw [hNext, List.cons_append, List.head?_cons] at hHead
      refine ⟨a, List.mem_cons_self, by rw [hNext, List.head?_cons, hHead], ?_⟩
      intro b hb _
      rcases List.mem_cons.mp hb with rfl | hb
      · exact Nat.le_refl _
      · exact Nat.le_of_lt (hLater b hb)

theorem FarthestFirst.le_of_head? {l : List State} (h : FarthestFirst l) {a b : State}
    (hHead : l.head? = some a) (hb : b ∈ l) : b.cursor.index ≤ a.cursor.index := by
  cases l with
  | nil => cases hHead
  | cons c l =>
    obtain rfl := Option.some.inj hHead
    rcases List.mem_cons.mp hb with rfl | hb
    · exact Nat.le_refl _
    · exact Nat.le_of_lt ((List.pairwise_cons.mp h).1 b hb)

theorem FarthestFirst.flatMap {l : List State} (h : l.length ≤ 1) {next : State → List State}
    (hNext : ∀ s ∈ l, FarthestFirst (next s)) : FarthestFirst (l.flatMap next) := by
  match l, h with
  | [], _ => exact .nil
  | [s], _ =>
    rw [List.flatMap_singleton]
    exact hNext s List.mem_cons_self

namespace Matcher

variable {f : Flags} {test : CharTest} {inner : GroupSpan} {round : State → List State}

/-! ## Runs -/

theorem length_char_le (s : State) (dir : Direction) :
    (outcomes f (.char test) dir s).length ≤ 1 := by
  rw [outcomes]
  split
  · split_ifs <;> simp
  · simp

theorem length_exactly_le (h : ∀ s, (round s).length ≤ 1) (n : Nat) (s : State) :
    (exactlyOutcomes round n s).length ≤ 1 := by
  induction n generalizing s with
  | zero => exact Nat.le_refl 1
  | succ n ih =>
    rw [exactlyOutcomes]
    have hOne := h s
    cases hRound : round s with
    | nil => exact Nat.zero_le 1
    | cons t more =>
      rw [hRound, List.length_cons] at hOne
      obtain rfl : more = [] := List.eq_nil_of_length_eq_zero (Nat.le_zero.mp (Nat.le_of_succ_le_succ hOne))
      rw [List.flatMap_singleton]
      exact ih t

theorem farthestFirst_upTo (h : ∀ s, (round s).length ≤ 1)
    (hOnward : ∀ s, ∀ s' ∈ round s, s.cursor.Onward .forward s'.cursor) (room : Text)
    (most : Option Nat) (s : State) :
    FarthestFirst (upToOutcomes round true room most s) ∧
      ∀ t ∈ upToOutcomes round true room most s, s.cursor.index ≤ t.cursor.index := by
  have hHere (s : State) : ∀ t ∈ [s], s.cursor.index ≤ t.cursor.index := by simp
  induction room generalizing most s with
  | nil => exact ⟨.of_length_le_one (Nat.le_refl 1), hHere s⟩
  | cons u room ih =>
    rw [upToOutcomes]
    split_ifs with hMost hGreedy
    · exact ⟨.of_length_le_one (Nat.le_refl 1), hHere s⟩
    · -- Each further round reads something, so what comes of it stands behind `s`.
      have hFilter : ((round s).filter (·.cursor.index ≠ s.cursor.index)).length ≤ 1 :=
        Nat.le_trans (List.length_filter_le _ _) (h s)
      have hBeyond : ∀ t ∈ ((round s).filter (·.cursor.index ≠ s.cursor.index)).flatMap
          (upToOutcomes round true room (most.map (· - 1))), s.cursor.index < t.cursor.index := by
        intro t ht
        obtain ⟨m, hm, ht⟩ := List.mem_flatMap.mp ht
        obtain ⟨hm, hMoved⟩ := List.mem_filter.mp hm
        have hFirst : s.cursor.index ≤ m.cursor.index := (hOnward s m hm).2
        have hMoved : m.cursor.index ≠ s.cursor.index := by simpa using hMoved
        have hMore := (ih (most.map (· - 1)) m).2 t ht
        omega
      refine ⟨List.pairwise_append.mpr ⟨?_, List.pairwise_singleton _ s, ?_⟩, ?_⟩
      · exact FarthestFirst.flatMap hFilter fun m _ => (ih _ m).1
      · intro t ht b hb
        rw [List.mem_singleton.mp hb]
        exact hBeyond t ht
      · intro t ht
        rcases List.mem_append.mp ht with ht | ht
        · exact Nat.le_of_lt (hBeyond t ht)
        · exact hHere s t ht
    · exact absurd rfl hGreedy

/-- A greedy run of one kind of character tries the longer texts before the shorter ones. -/
theorem farthestFirst_run (least : Nat) (most : Option Nat) (s : State) :
    FarthestFirst (outcomes f (.repeated (.char test) least most true inner) .forward s) := by
  have hOne (s : State) : (outcomes f (.char test) .forward (s.clear inner)).length ≤ 1 :=
    length_char_le _ _
  have hOnward (s : State) : ∀ s' ∈ outcomes f (.char test) .forward (s.clear inner),
      s.cursor.Onward .forward s'.cursor := by
    intro s' hs'
    rw [← s.cursor_clear inner]
    exact outcomes_onward hs'
  rw [outcomes]
  exact .flatMap (length_exactly_le hOne least s) fun m _ => (farthestFirst_upTo hOne hOnward _ _ m).1

/-! ## Repetitions -/

variable {body : Tree} {s s' : State}

theorem outcomes_repeated (hInner : inner.count = 0) (s : State) :
    outcomes f (.repeated body 0 none true inner) .forward s =
      upToOutcomes (outcomes f body .forward) true s.cursor.after none s := by
  have hClear (s : State) : s.clear inner = s := by rw [State.clear, if_pos hInner]
  simp only [outcomes, exactlyOutcomes, List.flatMap_singleton, hClear, Cursor.ahead, Option.map_none]

theorem outcomes_repeated_ne_nil (hInner : inner.count = 0) (s : State) :
    outcomes f (.repeated body 0 none true inner) .forward s ≠ [] := by
  rw [outcomes_repeated hInner]
  cases s.cursor.after <;> simp [upToOutcomes]

theorem outcomes_repeated_done (hInner : inner.count = 0) (h : outcomes f body .forward s = []) :
    outcomes f (.repeated body 0 none true inner) .forward s = [s] := by
  rw [outcomes_repeated hInner]
  cases s.cursor.after <;> simp [upToOutcomes, h]

/-- What a round prefers is where the next one begins. -/
theorem head?_repeated (hInner : inner.count = 0) (hHead : (outcomes f body .forward s).head? = some s')
    (hMoved : s.cursor.index < s'.cursor.index) :
    (outcomes f (.repeated body 0 none true inner) .forward s).head? =
      (outcomes f (.repeated body 0 none true inner) .forward s').head? := by
  obtain ⟨more, hRound⟩ := List.head?_eq_some_iff.mp hHead
  have hOnward : s.cursor.Onward .forward s'.cursor := outcomes_onward (List.mem_of_head? hHead)
  have hLess : s'.cursor.after.length < s.cursor.after.length := hOnward.ahead_length_lt (by omega)
  obtain ⟨u, room, hAfter⟩ := List.exists_cons_of_length_pos (Nat.lt_of_le_of_lt (Nat.zero_le _) hLess)
  rw [hAfter, List.length_cons] at hLess
  have hRoom : upToOutcomes (outcomes f body .forward) true room none s' =
      outcomes f (.repeated body 0 none true inner) .forward s' := by
    rw [outcomes_repeated hInner]
    exact upToOutcomes_room (fun _ _ => outcomes_onward) true room s'.cursor.after none s'
      (Nat.le_of_lt_succ hLess) (Nat.le_refl _)
  -- The round at `s'` need not go on: stopping there is an outcome as well.
  obtain ⟨t, rest, hMore⟩ := List.exists_cons_of_ne_nil
    (@outcomes_repeated_ne_nil f inner body hInner s')
  rw [outcomes_repeated hInner s, hAfter, upToOutcomes, hRound]
  simp [hRoom, hMore, Nat.ne_of_gt hMoved]

end Matcher
end LogTriage.Pattern
