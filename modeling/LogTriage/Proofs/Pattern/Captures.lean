import LogTriage.Pattern.CharSet
import LogTriage.Proofs.Pattern.Progress

/-! # What a tree reads and captures

Three readings of a tree that need no text: which characters it can begin with, which groups it leaves
alone, and which group it sets in every outcome. Each comes with the lemma that every outcome obeys it.
-/

namespace LogTriage.Pattern

set_option autoImplicit false

namespace Tree

/-- No repetition resets a group beyond the first `n`. -/
def fits (n : Nat) : Tree → Bool
  | .empty | .char _ | .reference _ | .assertion _ => true
  | .seq a b | .alt a b => a.fits n && b.fits n
  | .group _ body | .look _ _ body => body.fits n
  | .repeated body _ _ _ inner =>
    body.fits n && (inner.count == 0 || inner.first + inner.count ≤ n)

def keeps (i : Nat) : Tree → Bool
  | .empty | .char _ | .reference _ | .assertion _ => true
  | .seq a b | .alt a b => a.keeps i && b.keeps i
  | .group index body => index != i && body.keeps i
  | .look _ _ body => body.keeps i
  | .repeated body _ _ _ inner =>
    body.keeps i && (i < inner.first || inner.first + inner.count ≤ i)

/-- The body of group `i` where the group is set in every outcome and not touched afterwards. -/
def captured (i : Nat) : Tree → Option Tree
  | .seq a b => (b.captured i).or (if b.keeps i then a.captured i else none)
  | .group index body => if index = i then some body else body.captured i
  | _ => none

def isNullable : Tree → Bool
  | .empty | .reference _ | .assertion _ | .look .. => true
  | .char _ => false
  | .seq a b => a.isNullable && b.isNullable
  | .alt a b => a.isNullable || b.isNullable
  | .group _ body => body.isNullable
  | .repeated body least _ _ _ => least == 0 || body.isNullable

/-- The tests of which the first character that is read passes one. A reference reads anything. -/
def openers : Tree → List CharTest
  | .empty | .assertion _ | .look .. => []
  | .char test => [test]
  | .seq a b => a.openers ++ if a.isNullable then b.openers else []
  | .alt a b => a.openers ++ b.openers
  | .group _ body => body.openers
  | .reference _ => [.oneOf true []]
  | .repeated body _ _ _ _ => body.openers

end Tree

theorem State.groups_clear {n : Nat} {s : State} (inner : GroupSpan) (hLength : s.groups.length = n)
    (hFits : inner.count = 0 ∨ inner.first + inner.count ≤ n) :
    (s.clear inner).groups.length = n ∧
      ∀ i, i < inner.first ∨ inner.first + inner.count ≤ i →
        (s.clear inner).groups[i]? = s.groups[i]? := by
  rw [State.clear]
  split_ifs with hCount
  · exact ⟨hLength, fun _ _ => rfl⟩
  · have hFits := hFits.resolve_left hCount
    have hTake : (s.groups.take inner.first).length = inner.first := by
      rw [List.length_take]
      omega
    refine ⟨by simp only [List.length_append, hTake, List.length_replicate, List.length_drop]; omega,
      ?_⟩
    rintro i (hi | hi)
    · rw [List.append_assoc, List.getElem?_append_left (by omega), List.getElem?_take_of_lt hi]
    · have hFront : (s.groups.take inner.first ++
          List.replicate inner.count (none : Option Text)).length = inner.first + inner.count := by
        rw [List.length_append, hTake, List.length_replicate]
      rw [List.getElem?_append_right (by omega), hFront, List.getElem?_drop]
      congr 1
      omega

theorem State.group_setGroup {s : State} {i : Nat} (t : Text) (h : i < s.groups.length) :
    (s.setGroup i t).groups[i]? = some (some t) := by
  simp [State.setGroup, h]

namespace Matcher

variable {f : Flags}

/-- The groups before and after: as many, and alike where `tree` keeps them. -/
def GroupsKept (tree : Tree) (n : Nat) (s s' : State) : Prop :=
  s.groups.length = n →
    s'.groups.length = n ∧ ∀ i, tree.keeps i = true → s'.groups[i]? = s.groups[i]?

theorem GroupsKept.refl (tree : Tree) (n : Nat) (s : State) : GroupsKept tree n s s :=
  fun h => ⟨h, fun _ _ => rfl⟩

theorem GroupsKept.trans {tree : Tree} {n : Nat} (a b c : State) (hab : GroupsKept tree n a b)
    (hbc : GroupsKept tree n b c) : GroupsKept tree n a c := by
  intro h
  obtain ⟨hb, hKeptB⟩ := hab h
  obtain ⟨hc, hKeptC⟩ := hbc hb
  exact ⟨hc, fun i hi => (hKeptC i hi).trans (hKeptB i hi)⟩

theorem GroupsKept.mono {tree part : Tree} {n : Nat} {s s' : State}
    (hPart : ∀ i, tree.keeps i = true → part.keeps i = true) (h : GroupsKept part n s s') :
    GroupsKept tree n s s' :=
  fun hLength => ⟨(h hLength).1, fun i hi => (h hLength).2 i (hPart i hi)⟩

theorem outcomes_groupsKept {tree : Tree} {n : Nat} (hFits : tree.fits n = true) {dir : Direction}
    {s s' : State} (h : s' ∈ outcomes f tree dir s) : GroupsKept tree n s s' := by
  induction tree generalizing dir s s' with
  | empty =>
    rw [List.mem_singleton.mp h]
    exact .refl _ n s
  | char test =>
    rw [outcomes] at h
    cases hRead : s.cursor.read f.unicode dir with
    | none => simp [hRead] at h
    | some found =>
      simp only [hRead] at h
      split_ifs at h
      · rw [List.mem_singleton.mp h]
        exact .refl _ n s
      · simp at h
  | seq a b iha ihb =>
    simp only [Tree.fits, Bool.and_eq_true] at hFits
    have hLeft (i : Nat) (hi : (Tree.seq a b).keeps i = true) : a.keeps i = true := by
      simp only [Tree.keeps, Bool.and_eq_true] at hi
      exact hi.1
    have hRight (i : Nat) (hi : (Tree.seq a b).keeps i = true) : b.keeps i = true := by
      simp only [Tree.keeps, Bool.and_eq_true] at hi
      exact hi.2
    cases dir <;> obtain ⟨m, hm, h⟩ := List.mem_flatMap.mp h
    · exact .trans s m s' ((iha hFits.1 hm).mono hLeft) ((ihb hFits.2 h).mono hRight)
    · exact .trans s m s' ((ihb hFits.2 hm).mono hRight) ((iha hFits.1 h).mono hLeft)
  | alt a b iha ihb =>
    simp only [Tree.fits, Bool.and_eq_true] at hFits
    rcases List.mem_append.mp h with h | h
    · refine (iha hFits.1 h).mono fun i hi => ?_
      simp only [Tree.keeps, Bool.and_eq_true] at hi
      exact hi.1
    · refine (ihb hFits.2 h).mono fun i hi => ?_
      simp only [Tree.keeps, Bool.and_eq_true] at hi
      exact hi.2
  | group index body ih =>
    obtain ⟨m, hm, rfl⟩ := List.mem_map.mp h
    intro hLength
    obtain ⟨hm, hKept⟩ := ih hFits hm hLength
    refine ⟨by simpa [State.setGroup] using hm, fun i hi => ?_⟩
    simp only [Tree.keeps, Bool.and_eq_true, bne_iff_ne, ne_eq] at hi
    rw [State.setGroup, List.getElem?_set_ne hi.1]
    exact hKept i hi.2
  | reference index =>
    rw [outcomes] at h
    cases hGroup : s.group index with
    | none =>
      simp only [hGroup, List.mem_singleton] at h
      rw [h]
      exact .refl _ n s
    | some t =>
      cases hNext : readAgain f dir t s.cursor with
      | none => simp [hGroup, hNext] at h
      | some next =>
        simp only [hGroup, hNext, List.mem_singleton] at h
        rw [h]
        exact .refl _ n s
  | assertion a =>
    rw [outcomes] at h
    split_ifs at h
    · rw [List.mem_singleton.mp h]
      exact .refl _ n s
    · simp at h
  | look ahead negated body ih =>
    rw [outcomes] at h
    cases hBody : outcomes f body (if ahead then .forward else .backward) s with
    | nil =>
      simp only [hBody] at h
      split_ifs at h
      · rw [List.mem_singleton.mp h]
        exact .refl _ n s
      · simp at h
    | cons m more =>
      simp only [hBody] at h
      split_ifs at h
      · simp at h
      · rw [List.mem_singleton.mp h]
        have hMem : m ∈ outcomes f body (if ahead then .forward else .backward) s :=
          hBody ▸ List.mem_cons_self
        exact (ih hFits hMem : GroupsKept body n s m)
  | repeated body least most greedy inner ih =>
    obtain ⟨m, hm, h⟩ := List.mem_flatMap.mp h
    simp only [Tree.fits, Bool.and_eq_true, Bool.or_eq_true, beq_iff_eq, decide_eq_true_eq] at hFits
    have hRound (s s' : State) (h : s' ∈ outcomes f body dir (s.clear inner)) :
        GroupsKept (.repeated body least most greedy inner) n s s' := by
      intro hLength
      obtain ⟨hClear, hKeptClear⟩ := s.groups_clear inner hLength hFits.2
      obtain ⟨hLength', hKept⟩ := ih hFits.1 h hClear
      refine ⟨hLength', fun i hi => ?_⟩
      simp only [Tree.keeps, Bool.and_eq_true, Bool.or_eq_true, decide_eq_true_eq] at hi
      exact (hKept i hi.1).trans (hKeptClear i hi.2)
    exact .trans s m s' (exactlyOutcomes_induct (.refl _ n) .trans hRound least s m hm)
      (upToOutcomes_induct (.refl _ n) .trans hRound greedy _ _ m s' h)

theorem outcomes_captured {tree body : Tree} {i n : Nat} (hFits : tree.fits n = true) (hi : i < n)
    (hBody : tree.captured i = some body) {s s' : State} (hLength : s.groups.length = n)
    (h : s' ∈ outcomes f tree .forward s) :
    ∃ a, ∃ b ∈ outcomes f body .forward a,
      s'.groups[i]? = some (some (a.cursor.between b.cursor)) := by
  induction tree generalizing s s' with
  | seq a b iha ihb =>
    simp only [Tree.fits, Bool.and_eq_true] at hFits
    obtain ⟨m, hm, h⟩ := List.mem_flatMap.mp h
    have hLengthM := (outcomes_groupsKept hFits.1 hm hLength).1
    rw [Tree.captured] at hBody
    rcases Option.or_eq_some_iff.mp hBody with hBody | ⟨-, hBody⟩
    · exact ihb hFits.2 hBody hLengthM h
    · split_ifs at hBody with hKeeps
      obtain ⟨x, y, hy, hGroup⟩ := iha hFits.1 hBody hLength hm
      exact ⟨x, y, hy, ((outcomes_groupsKept hFits.2 h hLengthM).2 i hKeeps).trans hGroup⟩
  | group index inside ih =>
    obtain ⟨m, hm, rfl⟩ := List.mem_map.mp h
    have hFits : inside.fits n = true := hFits
    have hLengthM := (outcomes_groupsKept hFits hm hLength).1
    rw [Tree.captured] at hBody
    split_ifs at hBody with hIndex
    · subst hIndex
      cases hBody
      exact ⟨s, m, hm, State.group_setGroup _ (hLengthM ▸ hi)⟩
    · obtain ⟨x, y, hy, hGroup⟩ := ih hFits hBody hLength hm
      refine ⟨x, y, hy, ?_⟩
      rw [State.setGroup, List.getElem?_set_ne hIndex]
      exact hGroup
  | _ => simp [Tree.captured] at hBody

/-- What is read from `s` to `s'` begins with a character that passes one of `tests`. -/
def Opens (f : Flags) (tests : List CharTest) (s s' : State) : Prop :=
  ∃ c next, s.cursor.read f.unicode .forward = some (c, next) ∧
    (tests.any (·.accepts f c)) = true ∧ next.index ≤ s'.cursor.index

theorem Opens.mono {tests more : List CharTest} {s s' : State} (h : Opens f tests s s')
    (hSub : tests ⊆ more) : Opens f more s s' := by
  obtain ⟨c, next, hRead, hAny, hNext⟩ := h
  obtain ⟨test, hTest, hAccepts⟩ := List.any_eq_true.mp hAny
  exact ⟨c, next, hRead, List.any_eq_true.mpr ⟨test, hSub hTest, hAccepts⟩, hNext⟩

theorem Opens.trans {tests : List CharTest} {s m s' : State} (h : Opens f tests s m)
    (hOn : m.cursor.Onward .forward s'.cursor) : Opens f tests s s' := by
  obtain ⟨c, next, hRead, hAny, hNext⟩ := h
  exact ⟨c, next, hRead, hAny, Nat.le_trans hNext hOn.2⟩

theorem Opens.of_cursor_eq {tests : List CharTest} {s m s' : State} (h : Opens f tests m s')
    (hCursor : m.cursor = s.cursor) : Opens f tests s s' := by
  obtain ⟨c, next, hRead, hAny, hNext⟩ := h
  exact ⟨c, next, hCursor ▸ hRead, hAny, hNext⟩

/-- Nothing is read, or what is read begins with one of `tests`. Only together with not going back is
this a preorder. -/
def OpensIfAny (f : Flags) (tests : List CharTest) (s s' : State) : Prop :=
  s.cursor.Onward .forward s'.cursor ∧ (s'.cursor = s.cursor ∨ Opens f tests s s')

theorem OpensIfAny.refl (tests : List CharTest) (s : State) : OpensIfAny f tests s s :=
  ⟨.refl _ _, .inl rfl⟩

theorem OpensIfAny.trans {tests : List CharTest} (a b c : State) (hab : OpensIfAny f tests a b)
    (hbc : OpensIfAny f tests b c) : OpensIfAny f tests a c := by
  refine ⟨hab.1.trans hbc.1, ?_⟩
  rcases hab.2 with hSame | hOpens
  · exact hbc.2.imp (·.trans hSame) (·.of_cursor_eq hSame)
  · exact .inr (hOpens.trans hbc.1)

theorem readChars_eq_or_opens {ds : List Nat} {s : State} {next : Cursor}
    (h : readChars f .forward ds s.cursor = some next) :
    next = s.cursor ∨ Opens f [.oneOf true []] s { s with cursor := next } := by
  cases ds with
  | nil => exact .inl (Option.some.inj h).symm
  | cons d ds =>
    rw [readChars] at h
    cases hRead : s.cursor.read f.unicode .forward with
    | none => simp [hRead] at h
    | some found =>
      simp only [hRead] at h
      split_ifs at h
      exact .inr ⟨found.1, found.2, hRead, by simp [CharTest.accepts], (readChars_onward h).2⟩

theorem outcomes_opens {tree : Tree} {s s' : State} (h : s' ∈ outcomes f tree .forward s) :
    (tree.isNullable = true ∧ s'.cursor = s.cursor) ∨ Opens f tree.openers s s' := by
  induction tree generalizing s s' with
  | empty => exact .inl ⟨rfl, List.mem_singleton.mp h ▸ rfl⟩
  | char test =>
    rw [outcomes] at h
    cases hRead : s.cursor.read f.unicode .forward with
    | none => simp [hRead] at h
    | some found =>
      simp only [hRead] at h
      split_ifs at h with hTest
      · refine .inr ⟨found.1, found.2, hRead, by simpa [Tree.openers] using hTest, ?_⟩
        exact List.mem_singleton.mp h ▸ Nat.le_refl _
      · simp at h
  | seq a b iha ihb =>
    obtain ⟨m, hm, h⟩ := List.mem_flatMap.mp h
    rcases iha hm with ⟨hNull, hCursor⟩ | hOpens
    · rcases ihb h with ⟨hNull', hCursor'⟩ | hOpens
      · exact .inl ⟨by simp [Tree.isNullable, hNull, hNull'], hCursor'.trans hCursor⟩
      · refine .inr ((hOpens.of_cursor_eq hCursor).mono ?_)
        simp [Tree.openers, hNull]
    · refine .inr ((hOpens.trans (outcomes_onward h)).mono ?_)
      simp [Tree.openers]
  | alt a b iha ihb =>
    rcases List.mem_append.mp h with h | h
    · rcases iha h with ⟨hNull, hCursor⟩ | hOpens
      · exact .inl ⟨by simp [Tree.isNullable, hNull], hCursor⟩
      · exact .inr (hOpens.mono (by simp [Tree.openers]))
    · rcases ihb h with ⟨hNull, hCursor⟩ | hOpens
      · exact .inl ⟨by simp [Tree.isNullable, hNull], hCursor⟩
      · exact .inr (hOpens.mono (by simp [Tree.openers]))
  | group index body ih =>
    obtain ⟨m, hm, rfl⟩ := List.mem_map.mp h
    exact (ih hm : (body.isNullable = true ∧ m.cursor = s.cursor) ∨ Opens f body.openers s m)
  | reference index =>
    rw [outcomes] at h
    cases hGroup : s.group index with
    | none =>
      simp only [hGroup, List.mem_singleton] at h
      exact .inl ⟨rfl, h ▸ rfl⟩
    | some t =>
      cases hNext : readAgain f .forward t s.cursor with
      | none => simp [hGroup, hNext] at h
      | some next =>
        simp only [hGroup, hNext, List.mem_singleton] at h
        rcases readChars_eq_or_opens hNext with hSame | hOpens
        · exact .inl ⟨rfl, h ▸ hSame⟩
        · exact .inr (h ▸ hOpens)
  | assertion a =>
    rw [outcomes] at h
    split_ifs at h
    · exact .inl ⟨rfl, List.mem_singleton.mp h ▸ rfl⟩
    · simp at h
  | look ahead negated body ih =>
    rw [outcomes] at h
    refine .inl ⟨rfl, ?_⟩
    split at h <;> split_ifs at h <;> simp_all
  | repeated body least most greedy inner ih =>
    obtain ⟨m, hm, h⟩ := List.mem_flatMap.mp h
    have hRound (s s' : State) (h : s' ∈ outcomes f body .forward (s.clear inner)) :
        OpensIfAny f body.openers s s' := by
      have hClear := s.cursor_clear inner
      refine ⟨hClear ▸ outcomes_onward h, ?_⟩
      rcases ih h with ⟨-, hSame⟩ | hOpens
      · exact .inl (hSame.trans hClear)
      · exact .inr (hOpens.of_cursor_eq hClear)
    have hRounds (n : Nat) (s s' : State)
        (h : s' ∈ exactlyOutcomes (fun s => outcomes f body .forward (s.clear inner)) n s) :
        OpensIfAny f body.openers s s' :=
      exactlyOutcomes_induct (.refl _) .trans hRound n s s' h
    have hRest : OpensIfAny f body.openers m s' :=
      upToOutcomes_induct (.refl _) .trans hRound greedy _ _ m s' h
    cases hNull : (Tree.repeated body least most greedy inner).isNullable with
    | true => exact ((hRounds least s m hm).trans s m s' hRest).2.imp (⟨rfl, ·⟩) id
    | false =>
      simp only [Tree.isNullable, Bool.or_eq_false_iff, beq_eq_false_iff_ne] at hNull
      obtain ⟨n, rfl⟩ := Nat.exists_eq_succ_of_ne_zero hNull.1
      obtain ⟨x, hx, hm⟩ := List.mem_flatMap.mp hm
      rcases ih hx with ⟨hBody, -⟩ | hOpens
      · simp [hNull.2] at hBody
      · exact .inr (((hOpens.of_cursor_eq (s.cursor_clear inner)).trans
          (hRounds n x m hm).1).trans hRest.1)

end Matcher
end LogTriage.Pattern
