import LogTriage.Proofs.Pattern.Scan

/-! # The flags of a scan

A match at a place does not depend on the flags `g` and `y`, and neither does the reading of a source. So
a pattern that is compiled with other such flags has the same matches.
-/

namespace LogTriage.Pattern

set_option autoImplicit false

/-- The same flags but for `g` and `y`. -/
def Flags.scanning (f : Flags) (global sticky : Bool) : Flags :=
  { f with global := global, sticky := sticky }

variable (f : Flags) (global sticky : Bool)

theorem CharTest.accepts_scanning (test : CharTest) (c : Nat) :
    test.accepts (f.scanning global sticky) c = test.accepts f c := by
  have hItem (item : ClassItem) : item.has (f.scanning global sticky) = item.has f := by
    cases item <;> rfl
  cases test with
  | literal d => rfl
  | anyChar => rfl
  | oneOf negated items =>
    simp only [accepts, hItem]
    rfl

namespace Matcher

theorem readChars_scanning (dir : Direction) (ds : List Nat) (c : Cursor) :
    readChars (f.scanning global sticky) dir ds c = readChars f dir ds c := by
  induction ds generalizing c with
  | nil => rfl
  | cons d ds ih =>
    simp only [readChars, ih]
    rfl

theorem readAgain_scanning (dir : Direction) (t : Text) (c : Cursor) :
    readAgain (f.scanning global sticky) dir t c = readAgain f dir t c := by
  cases dir <;> exact readChars_scanning f global sticky _ _ c

theorem holds_scanning (a : Assertion) (c : Cursor) :
    holds (f.scanning global sticky) a c = holds f a c := by
  cases a <;> rfl

theorem outcomes_scanning (tree : Tree) (dir : Direction) (s : State) :
    outcomes (f.scanning global sticky) tree dir s = outcomes f tree dir s := by
  induction tree generalizing dir s with
  | empty => rfl
  | char test =>
    simp only [outcomes, CharTest.accepts_scanning]
    rfl
  | seq a b iha ihb =>
    have hA (dir : Direction) := funext (iha dir)
    have hB (dir : Direction) := funext (ihb dir)
    cases dir
    · rw [outcomes, outcomes, hA, hB]
    · rw [outcomes, outcomes, hA, hB]
  | alt a b iha ihb => rw [outcomes, outcomes, iha, ihb]
  | group index body ih => rw [outcomes, outcomes, ih]
  | reference index => simp only [outcomes, readAgain_scanning]
  | assertion a => rw [outcomes, outcomes, holds_scanning]
  | look ahead negated body ih => simp only [outcomes, ih]
  | repeated body least most greedy inner ih => simp only [outcomes, ih]

end Matcher

/-- The same pattern but for `g` and `y`. -/
def scanning (p : Pattern) : Pattern := { p with flags := p.flags.scanning global sticky }

theorem matchAt_scanning (p : Pattern) (c : Cursor) :
    matchAt (p.scanning global sticky) c = matchAt p c := by
  rw [matchAt_eq_head?, matchAt_eq_head?]
  exact congrArg _ (congrArg _ (Matcher.outcomes_scanning p.flags global sticky p.tree .forward _))

theorem searchIn_scanning (p : Pattern) (room : Text) (c : Cursor) :
    searchIn (p.scanning global sticky) room c = searchIn p room c := by
  induction room generalizing c with
  | nil => exact matchAt_scanning global sticky p c
  | cons u room ih =>
    have hStep : stepOver (p.scanning global sticky) c = stepOver p c := rfl
    rw [searchIn, searchIn, matchAt_scanning, hStep, funext ih]

theorem scan_scanning (p : Pattern) (t : Text) : scan (p.scanning global sticky) t = scan p t := by
  have hFind : find (p.scanning global sticky) = find p :=
    funext fun c => searchIn_scanning global sticky p c.after c
  rw [scan, hFind]
  rfl

/-- What can be compiled can be compiled with other such flags. -/
theorem ofSource_scanning {p : Pattern} {source : Text} (h : ofSource source f = .ok p) :
    ofSource source (f.scanning global sticky) = .ok (p.scanning global sticky) := by
  have hUnicode : (f.scanning global sticky).unicode = f.unicode := rfl
  rw [ofSource] at h ⊢
  rw [hUnicode]
  cases hRead : Reader.read f.unicode source with
  | error fault => simp [hRead] at h
  | ok found =>
    simp only [hRead, Except.ok.injEq] at h
    rw [← h]
    rfl

end LogTriage.Pattern
