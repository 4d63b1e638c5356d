import LogTriage.Event
import LogTriage.Proofs.Pattern.Captures
import LogTriage.Proofs.Pattern.Scan
import Mathlib.Data.List.ReduceOption

/-! # Match contents

What the content of a match begins with and how many texts it has can be told from the pattern: from
the openers of the whole tree, or of the body of its first group.
-/

namespace LogTriage

set_option autoImplicit false

namespace MatchContent

def parts : MatchContent → List Text
  | single t => [t]
  | several ts => ts

def headUnit (c : MatchContent) : Option CodeUnit := c.parts.head?.bind List.head?

theorem parts_ofKept (ts : List Text) : (ofKept ts).parts = ts := by
  rw [ofKept.eq_def]
  split <;> rfl

theorem parts_ofMatch {groups : List (Option Text)} (h : groups ≠ []) (whole : Text) :
    (ofMatch whole groups).parts = groups.reduceOption.filter (· ≠ []) := by
  rw [ofMatch, if_neg (by simpa using h), parts_ofKept]

theorem length_parts_ofMatch_le {groups : List (Option Text)} (h : groups ≠ []) (whole : Text) :
    (ofMatch whole groups).parts.length ≤ groups.length := by
  rw [parts_ofMatch h]
  exact Nat.le_trans (List.length_filter_le _ _) (List.reduceOption_length_le groups)

theorem length_kept {groups : List (Option Text)}
    (h : ∀ g ∈ groups, ∃ u rest, g = some (u :: rest)) :
    (groups.reduceOption.filter (· ≠ [])).length = groups.length := by
  induction groups with
  | nil => rfl
  | cons g groups ih =>
    obtain ⟨u, rest, rfl⟩ := h g List.mem_cons_self
    rw [List.reduceOption_cons_of_some, List.filter_cons_of_pos (by simp), List.length_cons,
      ih fun g hg => h g (List.mem_cons_of_mem _ hg), List.length_cons]

theorem headUnit_ofMatch_cons (whole rest : Text) (u : CodeUnit) (groups : List (Option Text)) :
    (ofMatch whole (some (u :: rest) :: groups)).headUnit = some u := by
  rw [headUnit, parts_ofMatch (List.cons_ne_nil _ _)]
  simp [List.reduceOption_cons_of_some]

theorem trim_cons_head? {u : CodeUnit} (h : Text.isBlank u.toNat = false) (t : Text) :
    (Text.trim (u :: t)).head? = some u := by
  have hStart : Text.trimStart (u :: t) = u :: t := by simp [Text.trimStart, h]
  rw [Text.trim, hStart, Text.trimStart, List.reverse_cons, List.dropWhile_append]
  split_ifs
  · simp [h]
  · simp

/-- A whole match that begins with no blank passes its first unit on. -/
theorem headUnit_ofMatch_nil {u : CodeUnit} (h : Text.isBlank u.toNat = false) (rest : Text) :
    (ofMatch (u :: rest) []).headUnit = some u := by
  have hNewline : u ≠ Text.newline := by
    rintro rfl
    exact absurd h (by decide)
  rw [ofMatch, if_pos List.isEmpty_nil]
  split_ifs
  · rw [headUnit, parts_ofKept]
    obtain ⟨more, hTrim⟩ : ∃ more, Text.trim (u :: rest) = u :: more :=
      ⟨_, (List.head?_eq_some_iff.mp (trim_cons_head? h rest)).choose_spec⟩
    cases hLines : Text.lines more with
    | nil => exact absurd hLines (Text.lines_ne_nil more)
    | cons line others =>
      rw [hTrim, Text.lines_cons hNewline hLines]
      simp
  · rfl

end MatchContent

namespace Pattern

def Found.content (m : Found) : MatchContent := MatchContent.ofMatch m.text m.groups

/-- A character that is asked for by itself and is no blank. -/
def CharTest.isSolid : CharTest → Bool
  | .literal c => !Text.isBlank c
  | _ => false

/-- No character passes a test of both lists, as far as the literals of the first can tell. -/
def clash (f : Flags) (tests others : List CharTest) : Bool :=
  tests.all fun
    | .literal c => !others.any (·.accepts f c)
    | _ => false

/-- Read without regard to flags, and in bounds with its groups. -/
def isPlain (p : Pattern) : Bool := p.flags == {} && p.tree.fits p.groupCount

/-- The body of a group that every match sets to a text that is not empty. -/
def filled (p : Pattern) (i : Nat) : Option Tree :=
  (p.tree.captured i).filter fun body => !body.isNullable

/-- Tests of which the first unit of a content passes one: those of the first group or, where there are
no groups, of the whole tree. -/
def headTests (p : Pattern) : Option (List CharTest) :=
  if p.groupCount = 0 then
    if p.tree.isNullable || !p.tree.openers.all CharTest.isSolid then none else some p.tree.openers
  else (p.filled 0).map Tree.openers

def fillsAll (p : Pattern) : Bool :=
  p.groupCount != 0 && (List.range p.groupCount).all fun i => (p.filled i).isSome

/-- The contents of the two patterns begin differently. -/
def headsApart (p q : Pattern) : Bool :=
  match p.headTests, q.headTests with
  | some tests, some others => clash {} tests others || clash {} others tests
  | _, _ => false

/-- No match of one pattern has the content of a match of the other. -/
def isApart (p q : Pattern) : Bool :=
  p.isPlain && q.isPlain &&
    (headsApart p q || (p.fillsAll && q.groupCount != 0 && q.groupCount < p.groupCount))

variable {p q : Pattern} {c : Cursor} {m n : Found}

theorem isPlain_iff : p.isPlain = true ↔ p.flags = {} ∧ p.tree.fits p.groupCount = true := by
  simp [isPlain]

theorem filled_eq_some_iff {i : Nat} {body : Tree} :
    p.filled i = some body ↔ p.tree.captured i = some body ∧ body.isNullable = false := by
  simp [filled]

/-! ## What a match begins with -/

theorem between_eq_cons {tests : List CharTest} {s s' : State} (h : Matcher.Opens {} tests s s') :
    ∃ u rest, s.cursor.between s'.cursor = u :: rest ∧
      (tests.any (·.accepts {} u.toNat)) = true := by
  obtain ⟨x, next, hRead, hAny, hNext⟩ := h
  rw [Cursor.read, Cursor.readForward] at hRead
  cases hAdvance : s.cursor.advance with
  | none => simp [hAdvance] at hRead
  | some found =>
    obtain ⟨u, after⟩ := found
    simp only [hAdvance, Bool.false_and, Bool.false_eq_true, if_false, Option.some.injEq,
      Prod.mk.injEq] at hRead
    obtain ⟨rfl, rfl⟩ := hRead
    obtain ⟨hAfter, -⟩ := Cursor.advance_eq_some_iff.mp hAdvance
    have hIndex := (Cursor.advance_onward hAdvance).2
    obtain ⟨n, hn⟩ : ∃ n, s'.cursor.index - s.cursor.index = n + 1 :=
      ⟨s'.cursor.index - s.cursor.index - 1, by omega⟩
    refine ⟨u, after.after.take n, ?_, hAny⟩
    rw [Cursor.between, if_pos (by omega), hn, hAfter, List.take_succ_cons]

theorem text_eq_cons (hPlain : p.isPlain = true) (hNull : p.tree.isNullable = false)
    (h : matchAt p c = some m) :
    ∃ u rest, m.text = u :: rest ∧ (p.tree.openers.any (·.accepts {} u.toNat)) = true := by
  obtain ⟨hFlags, -⟩ := isPlain_iff.mp hPlain
  obtain ⟨s, hs, rfl⟩ := mem_outcomes_of_matchAt h
  rw [hFlags] at hs
  rcases Matcher.outcomes_opens hs with ⟨hTrue, -⟩ | hOpens
  · simp [hNull] at hTrue
  · exact between_eq_cons hOpens

theorem length_groups (hPlain : p.isPlain = true) (h : matchAt p c = some m) :
    m.groups.length = p.groupCount := by
  obtain ⟨s, hs, rfl⟩ := mem_outcomes_of_matchAt h
  exact (Matcher.outcomes_groupsKept (isPlain_iff.mp hPlain).2 hs List.length_replicate).1

theorem group_eq_cons {body : Tree} {i : Nat} (hPlain : p.isPlain = true) (hi : i < p.groupCount)
    (hBody : p.filled i = some body) (h : matchAt p c = some m) :
    ∃ u rest, m.groups[i]? = some (some (u :: rest)) ∧
      (body.openers.any (·.accepts {} u.toNat)) = true := by
  obtain ⟨hFlags, hFits⟩ := isPlain_iff.mp hPlain
  obtain ⟨hBody, hNull⟩ := filled_eq_some_iff.mp hBody
  obtain ⟨s, hs, rfl⟩ := mem_outcomes_of_matchAt h
  rw [hFlags] at hs
  obtain ⟨a, b, hb, hGroup⟩ :=
    Matcher.outcomes_captured hFits hi hBody List.length_replicate hs
  rcases Matcher.outcomes_opens hb with ⟨hTrue, -⟩ | hOpens
  · simp [hNull] at hTrue
  · obtain ⟨u, rest, hBetween, hAny⟩ := between_eq_cons hOpens
    exact ⟨u, rest, by rw [← hBetween]; exact hGroup, hAny⟩

theorem isBlank_of_isSolid {test : CharTest} {x : Nat} (hSolid : test.isSolid = true)
    (h : test.accepts {} x = true) : Text.isBlank x = false := by
  cases test with
  | literal d =>
    obtain rfl := (CharTest.accepts_literal_iff rfl x d).mp h
    simpa [CharTest.isSolid] using hSolid
  | _ => simp [CharTest.isSolid] at hSolid

theorem headUnit_content {tests : List CharTest} (hPlain : p.isPlain = true)
    (hTests : p.headTests = some tests) (h : matchAt p c = some m) :
    ∃ u, m.content.headUnit = some u ∧ (tests.any (·.accepts {} u.toNat)) = true := by
  have hLength := length_groups hPlain h
  rw [headTests] at hTests
  split_ifs at hTests with hNone hOpen
  · simp only [Bool.or_eq_true, Bool.not_eq_true', not_or, Bool.not_eq_true, Bool.not_eq_false]
      at hOpen
    obtain ⟨hNull, hSolid⟩ := hOpen
    obtain rfl := Option.some.inj hTests
    obtain ⟨u, rest, hText, hAny⟩ := text_eq_cons hPlain hNull h
    obtain ⟨test, hTest, hAccepts⟩ := List.any_eq_true.mp hAny
    have hBlank := isBlank_of_isSolid (List.all_eq_true.mp hSolid test hTest) hAccepts
    refine ⟨u, ?_, hAny⟩
    rw [Found.content, hText, List.eq_nil_of_length_eq_zero (hLength.trans hNone)]
    exact MatchContent.headUnit_ofMatch_nil hBlank rest
  · obtain ⟨body, hBody, rfl⟩ := Option.map_eq_some_iff.mp hTests
    obtain ⟨u, rest, hGroup, hAny⟩ := group_eq_cons hPlain (Nat.pos_of_ne_zero hNone) hBody h
    refine ⟨u, ?_, hAny⟩
    cases hGroups : m.groups with
    | nil => simp [hGroups] at hGroup
    | cons g groups =>
      rw [hGroups, List.getElem?_cons_zero, Option.some.injEq] at hGroup
      rw [Found.content, hGroups, hGroup]
      exact MatchContent.headUnit_ofMatch_cons _ rest u groups

theorem length_parts_content (hPlain : p.isPlain = true) (hFills : p.fillsAll = true)
    (h : matchAt p c = some m) : m.content.parts.length = p.groupCount := by
  have hLength := length_groups hPlain h
  simp only [fillsAll, Bool.and_eq_true, bne_iff_ne, List.all_eq_true, List.mem_range] at hFills
  obtain ⟨hSome, hFills⟩ := hFills
  have hGroups : m.groups ≠ [] := by
    rintro hNil
    rw [hNil] at hLength
    exact hSome hLength.symm
  have hKept (g : Option Text) (hg : g ∈ m.groups) : ∃ u rest, g = some (u :: rest) := by
    obtain ⟨i, hi, rfl⟩ := List.mem_iff_getElem.mp hg
    obtain ⟨body, hBody⟩ := Option.isSome_iff_exists.mp (hFills i (hLength ▸ hi))
    obtain ⟨u, rest, hGroup, -⟩ := group_eq_cons hPlain (hLength ▸ hi) hBody h
    exact ⟨u, rest, (List.getElem?_eq_some_iff.mp hGroup).2⟩
  rw [Found.content, MatchContent.parts_ofMatch hGroups, MatchContent.length_kept hKept, hLength]

/-! ## Patterns with different contents -/

theorem clash_sound {tests others : List CharTest} {x : Nat} (hClash : clash {} tests others = true)
    (h : (tests.any (·.accepts {} x)) = true) : (others.any (·.accepts {} x)) = false := by
  obtain ⟨test, hTest, hAccepts⟩ := List.any_eq_true.mp h
  have hSelf := List.all_eq_true.mp hClash test hTest
  cases test with
  | literal d =>
    obtain rfl := (CharTest.accepts_literal_iff rfl x d).mp hAccepts
    simpa using hSelf
  | _ => simp at hSelf

theorem content_ne_of_headsApart (hp : p.isPlain = true) (hq : q.isPlain = true)
    (hApart : headsApart p q = true) {d : Cursor} (hm : matchAt p c = some m)
    (hn : matchAt q d = some n) : m.content ≠ n.content := by
  intro hEq
  rw [headsApart] at hApart
  cases hTests : p.headTests with
  | none => simp [hTests] at hApart
  | some tests =>
    cases hOthers : q.headTests with
    | none => simp [hTests, hOthers] at hApart
    | some others =>
      obtain ⟨u, hu, hAny⟩ := headUnit_content hp hTests hm
      obtain ⟨v, hv, hOther⟩ := headUnit_content hq hOthers hn
      rw [hEq, hv, Option.some.injEq] at hu
      subst hu
      rw [hTests, hOthers, Bool.or_eq_true] at hApart
      rcases hApart with hClash | hClash
      · rw [clash_sound hClash hAny] at hOther
        exact absurd hOther (by decide)
      · rw [clash_sound hClash hOther] at hAny
        exact absurd hAny (by decide)

/-- Patterns that are apart never give one content, whatever texts they are matched in. -/
theorem content_ne (hApart : isApart p q = true) {d : Cursor} (hm : matchAt p c = some m)
    (hn : matchAt q d = some n) : m.content ≠ n.content := by
  simp only [isApart, Bool.and_eq_true, Bool.or_eq_true, bne_iff_ne, decide_eq_true_eq] at hApart
  obtain ⟨⟨hp, hq⟩, hHeads | ⟨⟨hFills, hSome⟩, hFewer⟩⟩ := hApart
  · exact content_ne_of_headsApart hp hq hHeads hm hn
  · intro hEq
    have hLength := length_groups hq hn
    have hGroups : n.groups ≠ [] := by
      rintro hNil
      rw [hNil] at hLength
      exact hSome hLength.symm
    have hMany := length_parts_content hp hFills hm
    have hFew := MatchContent.length_parts_ofMatch_le hGroups n.text
    rw [hEq] at hMany
    rw [← Found.content] at hFew
    omega

end Pattern
end LogTriage
