import LogTriage.Proofs.Pattern.Progress

/-! # What a tree reads

`Reads` says which texts a tree can read between what stands before and what stands after, with no order
of trial and no bound on the rounds. Where a tree leaves all groups alone, its outcomes are the states
that such a text leads to.
-/

namespace LogTriage.Pattern

set_option autoImplicit false

/-- A relation between the units before a text, nearest first, the text and the units after it. -/
abbrev Reading := Text → Text → Text → Prop

namespace Reading

def andThen (R Q : Reading) : Reading := fun before w after =>
  ∃ v z, w = v ++ z ∧ R before v (z ++ after) ∧ Q (v.reverse ++ before) z after

def rounds (R : Reading) : Nat → Reading
  | 0 => fun _ w _ => w = []
  | n + 1 => R.andThen (R.rounds n)

def something (R : Reading) : Reading := fun before w after => w ≠ [] ∧ R before w after

end Reading

def Cursor.standing (before after : Text) : Cursor := ⟨before, after, before.length, rfl⟩

namespace Tree

def Reads (f : Flags) : Tree → Reading
  | .empty => fun _ w _ => w = []
  | .char test => fun _ w _ => ∃ u, w = [u] ∧ test.accepts f u.toNat = true
  | .seq a b => (a.Reads f).andThen (b.Reads f)
  | .alt a b => fun before w after => a.Reads f before w after ∨ b.Reads f before w after
  | .group _ body => body.Reads f
  | .reference _ => fun _ _ _ => False
  | .assertion a => fun before w after => w = [] ∧ Matcher.holds f a (.standing before after) = true
  | .look _ negated body => fun before w after =>
    w = [] ∧ ((∃ v z, after = v ++ z ∧ body.Reads f before v z) ↔ negated = false)
  | .repeated body least most _ _ => fun before w after =>
    ∃ n, least ≤ n ∧ (∀ m ∈ most, n ≤ m) ∧ (body.Reads f).rounds n before w after

/-- No group is set, reset or read again, and no look goes back. -/
def leavesGroups : Tree → Bool
  | .empty | .char _ | .assertion _ => true
  | .seq a b | .alt a b => a.leavesGroups && b.leavesGroups
  | .group .. | .reference _ => false
  | .look ahead _ body => ahead && body.leavesGroups
  | .repeated body least most _ inner =>
    body.leavesGroups && inner.count == 0 && most.all (least ≤ ·)

end Tree

/-! ## Standing further on -/

namespace State

/-- The state once `w` is read and `rest` is ahead. -/
def past (s : State) (w rest : Text) : State :=
  ⟨⟨w.reverse ++ s.cursor.before, rest, s.cursor.index + w.length, by simp [s.cursor.index_eq]; omega⟩,
    s.groups⟩

/-- From `s` a text of `R` leads to `s'`. -/
def Leads (R : Reading) (s s' : State) : Prop :=
  ∃ w rest, s.cursor.after = w ++ rest ∧ R s.cursor.before w rest ∧ s' = s.past w rest

theorem past_nil (s : State) : s.past [] s.cursor.after = s := rfl

theorem past_past (s : State) (v rest w far : Text) :
    (s.past v rest).past w far = s.past (v ++ w) far := by
  have hCursor : ((s.past v rest).past w far).cursor = (s.past (v ++ w) far).cursor :=
    (Cursor.ext_iff_parts _ _).mpr ⟨by simp [past], rfl⟩
  simp only [past] at hCursor ⊢
  rw [hCursor]

theorem between_past {s : State} {w rest : Text} (h : s.cursor.after = w ++ rest) :
    s.cursor.between (s.past w rest).cursor = w := by
  have hIndex : (s.past w rest).cursor.index = s.cursor.index + w.length := rfl
  rw [Cursor.between, hIndex, if_pos (Nat.le_add_right _ _), Nat.add_sub_cancel_left, h, List.take_left]

theorem leads_nothing {s s' : State} : s.Leads (fun _ w _ => w = []) s' ↔ s' = s := by
  constructor
  · rintro ⟨_, rest, hAfter, rfl, rfl⟩
    rw [List.nil_append] at hAfter
    rw [← hAfter, past_nil]
  · rintro rfl
    exact ⟨[], s'.cursor.after, rfl, rfl, rfl⟩

theorem leads_andThen {R Q : Reading} {s s' : State} :
    s.Leads (R.andThen Q) s' ↔ ∃ m, s.Leads R m ∧ m.Leads Q s' := by
  constructor
  · rintro ⟨_, rest, hAfter, ⟨v, z, rfl, hR, hQ⟩, rfl⟩
    rw [List.append_assoc] at hAfter
    exact ⟨_, ⟨v, z ++ rest, hAfter, hR, rfl⟩, z, rest, rfl, hQ, (past_past s v _ z rest).symm⟩
  · rintro ⟨_, ⟨v, far, hAfter, hR, rfl⟩, z, rest, hFar, hQ, rfl⟩
    obtain rfl : far = z ++ rest := hFar
    refine ⟨v ++ z, rest, ?_, ⟨v, z, rfl, hR, hQ⟩, past_past s v _ z rest⟩
    rw [hAfter, List.append_assoc]

theorem leads_or {R Q : Reading} {s s' : State} :
    s.Leads (fun before w after => R before w after ∨ Q before w after) s' ↔
      s.Leads R s' ∨ s.Leads Q s' := by
  constructor
  · rintro ⟨w, rest, hAfter, hR | hQ, rfl⟩
    · exact .inl ⟨w, rest, hAfter, hR, rfl⟩
    · exact .inr ⟨w, rest, hAfter, hQ, rfl⟩
  · rintro (⟨w, rest, hAfter, hR, rfl⟩ | ⟨w, rest, hAfter, hQ, rfl⟩)
    · exact ⟨w, rest, hAfter, .inl hR, rfl⟩
    · exact ⟨w, rest, hAfter, .inr hQ, rfl⟩

/-- What reads nothing is a condition on the place. -/
theorem leads_here {P : Text → Text → Prop} {s s' : State} :
    s.Leads (fun before w after => w = [] ∧ P before after) s' ↔
      P s.cursor.before s.cursor.after ∧ s' = s := by
  constructor
  · rintro ⟨_, rest, hAfter, ⟨rfl, hP⟩, rfl⟩
    obtain rfl : s.cursor.after = rest := hAfter
    exact ⟨hP, rfl⟩
  · rintro ⟨hP, rfl⟩
    exact ⟨[], s'.cursor.after, rfl, ⟨rfl, hP⟩, rfl⟩

theorem leads_congr {R Q : Reading} {s s' : State}
    (h : ∀ before w after, R before w after ↔ Q before w after) : s.Leads R s' ↔ s.Leads Q s' := by
  simp only [Leads, h]

theorem leads_exists {P : Nat → Prop} {R : Nat → Reading} {s s' : State} :
    s.Leads (fun before w after => ∃ n, P n ∧ R n before w after) s' ↔ ∃ n, P n ∧ s.Leads (R n) s' := by
  constructor
  · rintro ⟨w, rest, hAfter, ⟨n, hP, hR⟩, rfl⟩
    exact ⟨n, hP, w, rest, hAfter, hR, rfl⟩
  · rintro ⟨n, hP, w, rest, hAfter, hR, rfl⟩
    exact ⟨w, rest, hAfter, ⟨n, hP, hR⟩, rfl⟩

theorem leads_groups {R : Reading} {s s' : State} (h : s.Leads R s') : s'.groups = s.groups := by
  obtain ⟨w, rest, -, -, rfl⟩ := h
  rfl

theorem exists_leads_iff {R : Reading} {s : State} :
    (∃ s', s.Leads R s') ↔ ∃ w rest, s.cursor.after = w ++ rest ∧ R s.cursor.before w rest := by
  constructor
  · rintro ⟨_, w, rest, hAfter, hR, -⟩
    exact ⟨w, rest, hAfter, hR⟩
  · rintro ⟨w, rest, hAfter, hR⟩
    exact ⟨_, w, rest, hAfter, hR, rfl⟩

end State

namespace Matcher

open State

variable {f : Flags} {R : Reading} {round : State → List State}

/-! ## Rounds -/

theorem mem_exactlyOutcomes_iff (hRound : ∀ s s', s' ∈ round s ↔ s.Leads R s') (n : Nat) (s s' : State) :
    s' ∈ exactlyOutcomes round n s ↔ s.Leads (R.rounds n) s' := by
  induction n generalizing s with
  | zero => rw [exactlyOutcomes, List.mem_singleton, Reading.rounds, leads_nothing]
  | succ n ih =>
    rw [exactlyOutcomes, List.mem_flatMap, Reading.rounds, leads_andThen]
    simp only [hRound, ih]

theorem mem_progress_iff (hRound : ∀ s s', s' ∈ round s ↔ s.Leads R s') (s s' : State) :
    s' ∈ (round s).filter (·.cursor.index ≠ s.cursor.index) ↔ s.Leads R.something s' := by
  rw [List.mem_filter, hRound]
  constructor
  · rintro ⟨⟨w, rest, hAfter, hR, rfl⟩, hIndex⟩
    refine ⟨w, rest, hAfter, ⟨?_, hR⟩, rfl⟩
    rintro rfl
    simp [past] at hIndex
  · rintro ⟨w, rest, hAfter, ⟨hSome, hR⟩, rfl⟩
    refine ⟨⟨w, rest, hAfter, hR, rfl⟩, ?_⟩
    simpa [past] using hSome

theorem leads_upTo_iff (most : Option Nat) (s s' : State) :
    (∃ n, (∀ m ∈ most, n ≤ m) ∧ s.Leads (R.rounds n) s') ↔ s' = s ∨ (most ≠ some 0 ∧
      ∃ t, s.Leads R t ∧ ∃ n, (∀ m ∈ most.map (· - 1), n ≤ m) ∧ t.Leads (R.rounds n) s') := by
  constructor
  · rintro ⟨n, hMost, hLeads⟩
    cases n with
    | zero => exact .inl (leads_nothing.mp hLeads)
    | succ n =>
      obtain ⟨t, hFirst, hMore⟩ := leads_andThen.mp hLeads
      refine .inr ⟨?_, t, hFirst, n, ?_, hMore⟩
      · rintro rfl
        exact absurd (hMost 0 rfl) (Nat.not_succ_le_zero n)
      · intro k hk
        obtain ⟨m, hm, rfl⟩ := Option.map_eq_some_iff.mp hk
        have hLe := hMost m hm
        omega
  · rintro (rfl | ⟨hZero, t, hFirst, n, hMost, hMore⟩)
    · exact ⟨0, fun m _ => Nat.zero_le m, leads_nothing.mpr rfl⟩
    · refine ⟨n + 1, ?_, leads_andThen.mpr ⟨t, hFirst, hMore⟩⟩
      rintro m hm
      have hLe := hMost (m - 1) (by rw [hm]; rfl)
      have hNonzero : m ≠ 0 := by
        rintro rfl
        exact hZero hm
      omega

theorem mem_upToOutcomes_cons (greedy : Bool) (u : CodeUnit) (room : Text) (most : Option Nat)
    (s s' : State) : s' ∈ upToOutcomes round greedy (u :: room) most s ↔ s' = s ∨ (most ≠ some 0 ∧
      ∃ t ∈ (round s).filter (·.cursor.index ≠ s.cursor.index),
        s' ∈ upToOutcomes round greedy room (most.map (· - 1)) t) := by
  rw [upToOutcomes]
  by_cases hMost : most = some 0
  · simp [hMost]
  · cases greedy with
    | false => simp only [hMost, if_false, Bool.false_eq_true, List.mem_cons, List.mem_flatMap,
        ne_eq, not_false_eq_true, true_and]
    | true => simp only [hMost, if_false, if_true, List.mem_append, List.mem_flatMap, List.mem_singleton,
        ne_eq, not_false_eq_true, true_and, or_comm]

theorem mem_upToOutcomes_iff (hRound : ∀ s s', s' ∈ round s ↔ s.Leads R s') (greedy : Bool) (room : Text)
    (most : Option Nat) (s s' : State) (hRoom : s.cursor.after.length ≤ room.length) :
    s' ∈ upToOutcomes round greedy room most s ↔
      ∃ n, (∀ m ∈ most, n ≤ m) ∧ s.Leads (R.something.rounds n) s' := by
  have hShorter (s t : State) (h : s.Leads R.something t) :
      t.cursor.after.length < s.cursor.after.length := by
    obtain ⟨w, rest, hAfter, ⟨hSome, -⟩, rfl⟩ := h
    have hPositive := List.length_pos_iff.mpr hSome
    rw [hAfter, List.length_append]
    show rest.length < _
    omega
  rw [leads_upTo_iff]
  induction room generalizing most s with
  | nil =>
    rw [upToOutcomes, List.mem_singleton]
    refine ⟨.inl, ?_⟩
    rintro (rfl | ⟨-, t, hFirst, -⟩)
    · rfl
    · exact absurd (Nat.lt_of_lt_of_le (hShorter s t hFirst) hRoom) (Nat.not_lt_zero _)
  | cons u room ih =>
    rw [mem_upToOutcomes_cons]
    refine or_congr_right (and_congr_right fun _ => exists_congr fun t => ?_)
    rw [mem_progress_iff hRound]
    refine and_congr_right fun hFirst => ?_
    have hLess := hShorter s t hFirst
    rw [List.length_cons] at hRoom
    rw [leads_upTo_iff]
    exact ih _ t (by omega)

end Matcher

/-! ## Rounds that read nothing -/

namespace Reading

variable {R Q : Reading} {before w after : Text}

theorem rounds_mono (h : ∀ before w after, R before w after → Q before w after) {n : Nat}
    (hR : R.rounds n before w after) : Q.rounds n before w after := by
  induction n generalizing before w with
  | zero => exact hR
  | succ n ih =>
    obtain ⟨v, z, rfl, hFirst, hMore⟩ := hR
    exact ⟨v, z, rfl, h _ _ _ hFirst, ih hMore⟩

/-- Such rounds change nothing and may be left out. -/
theorem rounds_something {n : Nat} (h : R.rounds n before w after) :
    ∃ m ≤ n, R.something.rounds m before w after := by
  induction n generalizing before w with
  | zero => exact ⟨0, Nat.le_refl 0, h⟩
  | succ n ih =>
    obtain ⟨v, z, rfl, hFirst, hMore⟩ := h
    obtain ⟨m, hm, hMore⟩ := ih hMore
    cases v with
    | nil => exact ⟨m, by omega, hMore⟩
    | cons u v => exact ⟨m + 1, by omega, u :: v, z, rfl, ⟨List.cons_ne_nil u v, hFirst⟩, hMore⟩

theorem andThen_assoc {S : Reading} :
    (R.andThen Q).andThen S before w after ↔ R.andThen (Q.andThen S) before w after := by
  constructor
  · rintro ⟨_, z, rfl, ⟨x, y, rfl, hR, hQ⟩, hS⟩
    refine ⟨x, y ++ z, List.append_assoc x y z, ?_, y, z, rfl, hQ, ?_⟩
    · rwa [List.append_assoc]
    · rwa [List.reverse_append, List.append_assoc] at hS
  · rintro ⟨x, _, rfl, hR, y, z, rfl, hQ, hS⟩
    refine ⟨x ++ y, z, (List.append_assoc x y z).symm, ⟨x, y, rfl, ?_, hQ⟩, ?_⟩
    · rwa [List.append_assoc] at hR
    · rwa [List.reverse_append, List.append_assoc]

theorem rounds_add (m n : Nat) :
    R.rounds (m + n) before w after ↔ (R.rounds m).andThen (R.rounds n) before w after := by
  induction m generalizing before w with
  | zero =>
    rw [Nat.zero_add]
    constructor
    · intro h
      exact ⟨[], w, rfl, rfl, h⟩
    · rintro ⟨_, _, rfl, rfl, h⟩
      exact h
  | succ m ih =>
    rw [Nat.succ_add, rounds, rounds, andThen_assoc]
    constructor
    · rintro ⟨v, z, rfl, hFirst, hMore⟩
      exact ⟨v, z, rfl, hFirst, ih.mp hMore⟩
    · rintro ⟨v, z, rfl, hFirst, hMore⟩
      exact ⟨v, z, rfl, hFirst, ih.mpr hMore⟩

theorem repeated_iff {least : Nat} {most : Option Nat} (hMost : ∀ m ∈ most, least ≤ m) :
    (∃ n, least ≤ n ∧ (∀ m ∈ most, n ≤ m) ∧ R.rounds n before w after) ↔
      ∃ n, (∀ m ∈ most.map (· - least), n ≤ m) ∧
        (R.rounds least).andThen (R.something.rounds n) before w after := by
  constructor
  · rintro ⟨n, hLeast, hLe, hRounds⟩
    obtain ⟨k, rfl⟩ := Nat.exists_eq_add_of_le hLeast
    obtain ⟨v, z, rfl, hExactly, hMore⟩ := (rounds_add least k).mp hRounds
    obtain ⟨j, hj, hMore⟩ := rounds_something hMore
    refine ⟨j, ?_, v, z, rfl, hExactly, hMore⟩
    intro i hi
    obtain ⟨m, hm, rfl⟩ := Option.map_eq_some_iff.mp hi
    have hBound := hLe m hm
    omega
  · rintro ⟨n, hLe, v, z, rfl, hExactly, hMore⟩
    refine ⟨least + n, Nat.le_add_right least n, ?_, ?_⟩
    · intro m hm
      have hBound := hLe (m - least) (by rw [hm]; rfl)
      have hRoom := hMost m hm
      omega
    · have hAny : R.rounds n (v.reverse ++ before) z after := rounds_mono (fun _ _ _ h => h.2) hMore
      exact (rounds_add least n).mpr ⟨v, z, rfl, hExactly, hAny⟩

end Reading

namespace Matcher

open State

theorem mem_char_iff {f : Flags} (hUnicode : f.unicode = false) (test : CharTest) (s s' : State) :
    s' ∈ outcomes f (.char test) .forward s ↔ s.Leads ((Tree.char test).Reads f) s' := by
  rw [outcomes, hUnicode, Cursor.read, Cursor.readForward]
  constructor
  · intro h
    cases hAdvance : s.cursor.advance with
    | none => simp [hAdvance] at h
    | some found =>
      obtain ⟨u, next⟩ := found
      obtain ⟨hAfter, hBefore⟩ := Cursor.advance_eq_some_iff.mp hAdvance
      simp only [hAdvance, Bool.false_and, Bool.false_eq_true, if_false, List.mem_ite_nil_right,
        List.mem_singleton] at h
      obtain ⟨hAccepts, rfl⟩ := h
      refine ⟨[u], next.after, hAfter, ⟨u, rfl, hAccepts⟩, ?_⟩
      have hNext : next = (s.past [u] next.after).cursor := (Cursor.ext_iff_parts _ _).mpr ⟨hBefore, rfl⟩
      rw [State.mk.injEq]
      exact ⟨hNext, rfl⟩
  · rintro ⟨_, rest, hAfter, ⟨u, rfl, hAccepts⟩, rfl⟩
    have hAdvance : s.cursor.advance = some (u, (s.past [u] rest).cursor) :=
      Cursor.advance_eq_some_iff.mpr ⟨hAfter, rfl⟩
    simp only [hAdvance, Bool.false_and, Bool.false_eq_true, if_false, hAccepts, if_true,
      List.mem_singleton]
    rfl

/-- The outcomes of a tree that leaves all groups alone are where the texts it can read lead to. -/
theorem mem_outcomes_iff {f : Flags} (hUnicode : f.unicode = false) {tree : Tree}
    (hLeaves : tree.leavesGroups = true) (s s' : State) :
    s' ∈ outcomes f tree .forward s ↔ s.Leads (tree.Reads f) s' := by
  induction tree generalizing s s' with
  | empty => rw [outcomes, List.mem_singleton, Tree.Reads, leads_nothing]
  | char test => exact mem_char_iff hUnicode test s s'
  | seq a b iha ihb =>
    simp only [Tree.leavesGroups, Bool.and_eq_true] at hLeaves
    rw [outcomes, List.mem_flatMap, Tree.Reads, leads_andThen]
    simp only [iha hLeaves.1, ihb hLeaves.2]
  | alt a b iha ihb =>
    simp only [Tree.leavesGroups, Bool.and_eq_true] at hLeaves
    rw [outcomes, List.mem_append, Tree.Reads, leads_or, iha hLeaves.1, ihb hLeaves.2]
  | group index body ih => simp [Tree.leavesGroups] at hLeaves
  | reference index => simp [Tree.leavesGroups] at hLeaves
  | assertion a =>
    rw [outcomes, Tree.Reads, leads_here, List.mem_ite_nil_right, List.mem_singleton]
    have hPlace : Cursor.standing s.cursor.before s.cursor.after = s.cursor :=
      (Cursor.ext_iff_parts _ _).mpr ⟨rfl, rfl⟩
    rw [hPlace]
  | look ahead negated body ih =>
    simp only [Tree.leavesGroups, Bool.and_eq_true] at hLeaves
    obtain ⟨rfl, hLeaves⟩ := hLeaves
    rw [outcomes, Tree.Reads, leads_here, ← exists_leads_iff]
    simp only [← ih hLeaves s, if_true]
    cases hBody : outcomes f body .forward s with
    | nil => cases negated <;> simp
    | cons t more =>
      have hGroups : t.groups = s.groups := leads_groups ((ih hLeaves s t).mp (by simp [hBody]))
      cases negated with
      | true => simp
      | false => simp [hGroups]
  | repeated body least most greedy inner ih =>
    simp only [Tree.leavesGroups, Bool.and_eq_true, beq_iff_eq, Option.all_eq_true, decide_eq_true_eq]
      at hLeaves
    obtain ⟨⟨hLeaves, hInner⟩, hMost⟩ := hLeaves
    have hRound (s s' : State) : s' ∈ outcomes f body .forward (s.clear inner) ↔
        s.Leads (body.Reads f) s' := by
      rw [State.clear, if_pos hInner]
      exact ih hLeaves s s'
    rw [outcomes, List.mem_flatMap, Tree.Reads, leads_congr fun _ _ _ => Reading.repeated_iff hMost]
    simp only [mem_exactlyOutcomes_iff hRound, Cursor.ahead,
      mem_upToOutcomes_iff hRound greedy _ _ _ s' (Nat.le_refl _), leads_exists, leads_andThen]
    constructor
    · rintro ⟨t, hExactly, n, hRounds, hMore⟩
      exact ⟨n, hRounds, t, hExactly, hMore⟩
    · rintro ⟨n, hRounds, t, hExactly, hMore⟩
      exact ⟨t, hExactly, n, hRounds, hMore⟩

end Matcher
end LogTriage.Pattern
