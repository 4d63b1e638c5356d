import LogTriage.Pattern.Matcher
import Mathlib.Data.List.Basic

/-! # The outcomes of a tree

All states in which a tree can leave a match, in order of preference. The matcher hands them to its
continuation one after the other and answers with the first that is accepted. So whatever holds of
every outcome holds of every match, and two places with the same outcomes have the same matches.
-/

namespace LogTriage.Pattern

set_option autoImplicit false

namespace Matcher

/-- The outcomes of exactly `n` rounds. -/
def exactlyOutcomes (round : State → List State) : Nat → State → List State
  | 0, s => [s]
  | n + 1, s => (round s).flatMap (exactlyOutcomes round n)

/-- The outcomes of up to `most` rounds, each of which reads something. -/
def upToOutcomes (round : State → List State) (greedy : Bool) :
    Text → Option Nat → State → List State
  | [], _, s => [s]
  | _ :: room, most, s =>
    if most = some 0 then [s]
    else
      let again := ((round s).filter (·.cursor.index ≠ s.cursor.index)).flatMap
        (upToOutcomes round greedy room (most.map (· - 1)))
      if greedy then again ++ [s] else s :: again

def outcomes (f : Flags) : Tree → Direction → State → List State
  | .empty, _, s => [s]
  | .char test, dir, s =>
    match s.cursor.read f.unicode dir with
    | some (c, next) => if test.accepts f c then [{ s with cursor := next }] else []
    | none => []
  | .seq a b, .forward, s => (outcomes f a .forward s).flatMap (outcomes f b .forward)
  | .seq a b, .backward, s => (outcomes f b .backward s).flatMap (outcomes f a .backward)
  | .alt a b, dir, s => outcomes f a dir s ++ outcomes f b dir s
  | .group index body, dir, s =>
    (outcomes f body dir s).map fun s' => s'.setGroup index (s.cursor.between s'.cursor)
  | .reference index, dir, s =>
    match s.group index with
    | none => [s]
    | some t =>
      match readAgain f dir t s.cursor with
      | some next => [{ s with cursor := next }]
      | none => []
  | .assertion a, _, s => if holds f a s.cursor then [s] else []
  | .look ahead negated body, _, s =>
    match outcomes f body (if ahead then .forward else .backward) s with
    | s' :: _ => if negated then [] else [{ s with groups := s'.groups }]
    | [] => if negated then [s] else []
  | .repeated body least most greedy inner, dir, s =>
    let round := fun s => outcomes f body dir (s.clear inner)
    (exactlyOutcomes round least s).flatMap fun s' =>
      upToOutcomes round greedy (s'.cursor.ahead dir) (most.map (· - least)) s'

theorem findSome?_flatMap {α β γ : Type} (l : List α) (g : α → List β) (k : β → Option γ) :
    (l.flatMap g).findSome? k = l.findSome? fun a => (g a).findSome? k := by
  induction l with
  | nil => rfl
  | cons a l ih =>
    rw [List.flatMap_cons, List.findSome?_append, ih, List.findSome?_cons]
    cases (g a).findSome? k <;> rfl

theorem exactly_eq_findSome? {step : Step} {round : State → List State}
    (h : ∀ s k, step s k = (round s).findSome? k) (n : Nat) (s : State) (k : Continuation) :
    exactly step n s k = (exactlyOutcomes round n s).findSome? k := by
  induction n generalizing s with
  | zero => simp [exactly, exactlyOutcomes]
  | succ n ih =>
    rw [exactly, exactlyOutcomes, h, findSome?_flatMap]
    simp only [ih]

/-- Outcomes that read nothing are passed over by the continuation and left out of the list. -/
theorem findSome?_progress (l : List State) (i : Nat) (k : Continuation) :
    (l.findSome? fun s' => if s'.cursor.index = i then none else k s') =
      (l.filter (·.cursor.index ≠ i)).findSome? k := by
  induction l with
  | nil => rfl
  | cons s' l ih =>
    by_cases h : s'.cursor.index = i <;> simp [List.findSome?_cons, h, ih]

theorem upTo_eq_findSome? {step : Step} {round : State → List State}
    (h : ∀ s k, step s k = (round s).findSome? k) (greedy : Bool) (room : Text)
    (most : Option Nat) (s : State) (k : Continuation) :
    upTo step greedy room most s k = (upToOutcomes round greedy room most s).findSome? k := by
  induction room generalizing most s with
  | nil => simp [upTo, upToOutcomes]
  | cons u room ih =>
    have hAgain : (step s fun s' => if s'.cursor.index = s.cursor.index then none
          else upTo step greedy room (most.map (· - 1)) s' k) =
        (((round s).filter (·.cursor.index ≠ s.cursor.index)).flatMap
          (upToOutcomes round greedy room (most.map (· - 1)))).findSome? k := by
      rw [h, findSome?_flatMap, ← findSome?_progress]
      simp only [ih]
    by_cases hMost : most = some 0
    · simp [upTo, upToOutcomes, hMost]
    · cases greedy
      · simp only [upTo, upToOutcomes, if_neg hMost, hAgain, Bool.false_eq_true, if_false,
          List.findSome?_cons]
        cases k s <;> rfl
      · simp only [upTo, upToOutcomes, if_neg hMost, hAgain, if_true, List.findSome?_append,
          List.findSome?_singleton]
        cases List.findSome? k _ <;> rfl

/-- The matcher tries the outcomes of a tree in their order. -/
theorem run_eq_findSome? (f : Flags) (tree : Tree) (dir : Direction) (s : State)
    (k : Continuation) : run f tree dir s k = (outcomes f tree dir s).findSome? k := by
  induction tree generalizing dir s k with
  | empty => simp [run, outcomes]
  | char test =>
    rw [run, outcomes]
    cases s.cursor.read f.unicode dir with
    | none => rfl
    | some found => cases hTest : test.accepts f found.1 <;> simp [hTest]
  | seq a b iha ihb =>
    cases dir
    · rw [run, outcomes, iha, findSome?_flatMap]
      simp only [ihb]
    · rw [run, outcomes, ihb, findSome?_flatMap]
      simp only [iha]
  | alt a b iha ihb =>
    rw [run, outcomes, List.findSome?_append, iha, ihb]
    cases List.findSome? k _ <;> rfl
  | group index body ih =>
    rw [run, outcomes, ih, List.findSome?_map]
    rfl
  | reference index =>
    rw [run, outcomes]
    cases s.group index with
    | none => simp
    | some t => cases hNext : readAgain f dir t s.cursor <;> simp [hNext]
  | assertion a =>
    rw [run, outcomes]
    cases holds f a s.cursor <;> simp
  | look ahead negated body ih =>
    rw [run, outcomes, ih]
    cases outcomes f body (if ahead then .forward else .backward) s with
    | nil => cases negated <;> simp
    | cons s' more => cases negated <;> simp
  | repeated body least most greedy inner ih =>
    have hRound (s : State) (k : Continuation) : run f body dir (s.clear inner) k =
        (outcomes f body dir (s.clear inner)).findSome? k := ih dir _ k
    simp only [run, outcomes]
    rw [exactly_eq_findSome? hRound, findSome?_flatMap]
    simp only [upTo_eq_findSome? hRound]

theorem run_some_eq_head? (f : Flags) (tree : Tree) (dir : Direction) (s : State) :
    run f tree dir s some = (outcomes f tree dir s).head? := by
  rw [run_eq_findSome?]
  cases outcomes f tree dir s <;> simp

end Matcher
end LogTriage.Pattern
