import LogTriage.Proofs.Pattern.Pieces
import LogTriage.Proofs.Text.Decimal
import LogTriage.Proofs.Rule.Literal

/-! # Lines of error level

The parts of a line that the rule for unknown errors tells apart, and the pieces of its pattern that read
them: the header with the level, a timestamp, the message.
-/

namespace LogTriage.ErrorLine

set_option autoImplicit false

open Pattern
open Text (unit isDigit)

/-! ## Parts of a line -/

-- What holds of a text or of one end of it is decided on its own units, never over all units there are.
instance (P : CodeUnit → Prop) [DecidablePred P] (t : Text) : Decidable (∀ u ∈ t, P u) :=
  List.decidableBAll P t

instance (P : CodeUnit → Prop) [DecidablePred P] (u : Option CodeUnit) : Decidable (∀ v ∈ u, P v) :=
  u.decidableForallMem

def IsGap (u : CodeUnit) : Prop := u = unit ' ' ∨ u = unit '\t'

def IsSolid (u : CodeUnit) : Prop := Text.isBlank u.toNat = false

instance (u : CodeUnit) : Decidable (IsGap u) := inferInstanceAs (Decidable (_ ∨ _))

instance (u : CodeUnit) : Decidable (IsSolid u) := inferInstanceAs (Decidable (_ = false))

def Gaps (t : Text) : Prop := ∀ u ∈ t, IsGap u

instance (t : Text) : Decidable (Gaps t) := inferInstanceAs (Decidable (∀ u ∈ t, IsGap u))

def IsDigits (t : Text) : Prop := t ≠ [] ∧ ∀ u ∈ t, isDigit u = true

structure Header where
  afterName : Text
  beforeLevel : Text
  level : Text
  afterLevel : Text

def errorLevels : List Text := ["err", "crit", "alert", "emerg"].map Text.ofString

def Header.text (h : Header) : Text :=
  Text.ofString "kern" ++ (h.afterName ++ (Text.ofString ":" ++ (h.beforeLevel ++ (h.level ++
    (h.afterLevel ++ Text.ofString ":")))))

structure Header.IsError (h : Header) : Prop where
  afterName : Gaps h.afterName
  beforeLevel : Gaps h.beforeLevel
  level : h.level ∈ errorLevels
  afterLevel : Gaps h.afterLevel

/-- A year of four digits, a month and a day of any number, and the mark before a time of day. -/
def IsDate (t : Text) : Prop :=
  ∃ year month day, t = year ++ (Text.ofString "-" ++ (month ++ (Text.ofString "-" ++
    (day ++ Text.ofString "T")))) ∧
    IsDigits year ∧ year.length = 4 ∧ IsDigits month ∧ IsDigits day

def IsClock (t : Text) : Prop :=
  t ≠ [] ∧ ∀ u ∈ t, isDigit u = true ∨ u = unit ':' ∨ u = unit '.' ∨ u = unit ','

def IsZone (t : Text) : Prop :=
  t = Text.ofString "Z" ∨ ∃ sign hours minutes, t = sign :: (hours ++ (Text.ofString ":" ++ minutes)) ∧
    (sign = unit '+' ∨ sign = unit '-') ∧ IsDigits hours ∧ IsDigits minutes

def IsStamp (t : Text) : Prop :=
  ∃ date clock zone, t = date ++ (clock ++ zone) ∧ IsDate date ∧ IsClock clock ∧ (zone = [] ∨ IsZone zone)

def OneLine (t : Text) : Prop := ∀ u ∈ t, Text.isLineEnd u.toNat = false

instance (t : Text) : Decidable (OneLine t) := inferInstanceAs (Decidable (∀ u ∈ t, _ = false))

/-- What begins and ends with something to see and stays on its line. -/
structure IsMessage (t : Text) : Prop where
  nonempty : t ≠ []
  head : ∀ u ∈ t.head?, IsSolid u
  last : ∀ u ∈ t.getLast?, IsSolid u
  oneLine : OneLine t

/-! ## Pieces of the pattern -/

def lineFlags : Flags := { multiline := true }

def only (c : Char) : ClassItem := .span c.toNat c.toNat

def gap (first : Nat) : Tree :=
  .repeated (.char (.oneOf false [only ' ', only '\t'])) 0 none true ⟨first, 0⟩

def digits (first least : Nat) (most : Option Nat) : Tree :=
  .repeated (.char (.oneOf false [.shorthand .digit false])) least most true ⟨first, 0⟩

def levelChoice : Tree := .ofAlternatives (errorLevels.map fun level => .ofPieces (Tree.word level))

def headerPieces : List Tree :=
  .assertion .start :: (Tree.word (Text.ofString "kern") ++ (gap 0 :: (Tree.word (Text.ofString ":") ++
    (gap 0 :: levelChoice :: gap 0 :: Tree.word (Text.ofString ":")))))

def datePieces (first : Nat) : List Tree :=
  digits first 4 (some 4) :: (Tree.word (Text.ofString "-") ++ (digits first 1 none ::
    (Tree.word (Text.ofString "-") ++ (digits first 1 none :: Tree.word (Text.ofString "T")))))

def clock : Tree :=
  .repeated (.char (.oneOf false [.shorthand .digit false, only ':', only '.', only ','])) 1 none true
    ⟨0, 0⟩

def zone : Tree :=
  .alt (.ofPieces (Tree.word (Text.ofString "Z")))
    (.ofPieces (.char (.oneOf false [only '+', only '-']) :: digits 0 1 none ::
      (Tree.word (Text.ofString ":") ++ [digits 0 1 none])))

/-- The end of a timestamp, where a blank or the end of the line follows. -/
def stampEnd : List Tree :=
  [clock, .repeated zone 0 (some 1) true ⟨0, 0⟩,
    .look true false (.alt (.char (.oneOf false [only ' ', only '\t'])) (.assertion .stop))]

def stampAfterGap : Tree := .ofPieces (gap 0 :: (datePieces 0 ++ stampEnd))

def noDateAhead : Tree := .look true true (.ofPieces (gap 0 :: datePieces 0))

def frontPieces : List Tree := [.repeated stampAfterGap 0 (some 1) true ⟨0, 0⟩, noDateAhead, gap 0]

def solid : CharTest := .oneOf false [.shorthand .space true]

def message : Tree :=
  .seq (.char solid) (.repeated (.seq (.repeated (.char .anyChar) 0 none true ⟨1, 0⟩) (.char solid))
    0 (some 1) true ⟨1, 0⟩)

def backPieces : List Tree := [gap 1, .assertion .stop]

def pieces : List Tree := headerPieces ++ (frontPieces ++ .group 0 message :: backPieces)

theorem unknownError_eq : Rule.unknownError.pattern =
    ⟨Rule.unknownError.pattern.source, lineFlags, .ofPieces pieces, 1⟩ := by
  rw [Rule.unknownError, literal_ofList]
  decide +kernel

/-! ## Which units a test accepts -/

variable {f : Flags} {before w after : Text} {u : CodeUnit}

theorem accepts_oneOf_iff (hCase : f.ignoreCase = false) (items : List ClassItem) :
    (CharTest.oneOf false items).accepts f u.toNat = true ↔ ∃ item ∈ items, item.has f u.toNat = true := by
  simp [CharTest.accepts_oneOf_iff hCase]

theorem has_only_iff {c : Char} (h : c.toNat < 65536) :
    (only c).has f u.toNat = true ↔ u = unit c := by
  have hUnit : (unit c).toNat = c.toNat := by
    rw [unit, Nat.toUInt16_eq, UInt16.toNat_ofNat']
    omega
  rw [← UInt16.toNat_inj, hUnit]
  simp only [only, ClassItem.has, Bool.and_eq_true, decide_eq_true_eq]
  omega

theorem has_digit_iff : (ClassItem.shorthand .digit false).has f u.toNat = true ↔ isDigit u = true := by
  simp [ClassItem.has, Shorthand.has, Text.isDigit_iff]

theorem accepts_gap_iff (hCase : f.ignoreCase = false) :
    (CharTest.oneOf false [only ' ', only '\t']).accepts f u.toNat = true ↔ IsGap u := by
  simp [accepts_oneOf_iff hCase, has_only_iff, IsGap]

theorem accepts_digit_iff (hCase : f.ignoreCase = false) :
    (CharTest.oneOf false [.shorthand .digit false]).accepts f u.toNat = true ↔ isDigit u = true := by
  simp [accepts_oneOf_iff hCase, has_digit_iff]

theorem accepts_sign_iff (hCase : f.ignoreCase = false) :
    (CharTest.oneOf false [only '+', only '-']).accepts f u.toNat = true ↔
      u = unit '+' ∨ u = unit '-' := by
  simp [accepts_oneOf_iff hCase, has_only_iff]

theorem accepts_clock_iff (hCase : f.ignoreCase = false) :
    (CharTest.oneOf false [.shorthand .digit false, only ':', only '.', only ',']).accepts f u.toNat =
      true ↔ isDigit u = true ∨ u = unit ':' ∨ u = unit '.' ∨ u = unit ',' := by
  simp [accepts_oneOf_iff hCase, has_digit_iff, has_only_iff]

theorem accepts_solid_iff (hCase : f.ignoreCase = false) :
    solid.accepts f u.toNat = true ↔ IsSolid u := by
  simp [solid, accepts_oneOf_iff hCase, ClassItem.has, Shorthand.has, IsSolid]

theorem accepts_anyChar_iff (hDot : f.dotAll = false) :
    CharTest.anyChar.accepts f u.toNat = true ↔ Text.isLineEnd u.toNat = false := by
  simp [CharTest.accepts, hDot]

/-! ## What the pieces read -/

theorem reads_gap (hCase : f.ignoreCase = false) (first : Nat) :
    (gap first).Reads f before w after ↔ ∀ u ∈ w, IsGap u := by
  simp [gap, Tree.reads_run, accepts_gap_iff hCase]

theorem reads_digits (hCase : f.ignoreCase = false) (first : Nat) :
    (digits first 1 none).Reads f before w after ↔ IsDigits w := by
  simp [digits, Tree.reads_run, accepts_digit_iff hCase, IsDigits, Nat.succ_le_iff, List.length_pos_iff,
    and_comm]

theorem reads_fourDigits (hCase : f.ignoreCase = false) (first : Nat) :
    (digits first 4 (some 4)).Reads f before w after ↔ IsDigits w ∧ w.length = 4 := by
  simp only [digits, Tree.reads_run, accepts_digit_iff hCase, IsDigits]
  constructor
  · rintro ⟨hDigits, hLeast, hMost⟩
    have hLength : w.length = 4 := Nat.le_antisymm (hMost 4 rfl) hLeast
    refine ⟨⟨?_, hDigits⟩, hLength⟩
    rintro rfl
    exact absurd hLength (by decide)
  · rintro ⟨⟨-, hDigits⟩, hLength⟩
    refine ⟨hDigits, Nat.le_of_eq hLength.symm, ?_⟩
    rintro m ⟨⟩
    exact Nat.le_of_eq hLength

theorem reads_date (hCase : f.ignoreCase = false) (first : Nat) :
    (Tree.ofPieces (datePieces first)).Reads f before w after ↔ IsDate w := by
  simp only [datePieces, Tree.reads_ofPieces_cons, Tree.reads_ofPieces_append, Tree.reads_word hCase,
    Reading.andThen, reads_digits hCase, reads_fourDigits hCase]
  constructor
  · rintro ⟨year, _, rfl, ⟨hYear, hLength⟩, _, _, rfl, rfl, month, _, rfl, hMonth, _, _, rfl, rfl, day, _,
      rfl, hDay, rfl⟩
    exact ⟨year, month, day, rfl, hYear, hLength, hMonth, hDay⟩
  · rintro ⟨year, month, day, rfl, hYear, hLength, hMonth, hDay⟩
    exact ⟨year, _, rfl, ⟨hYear, hLength⟩, _, _, rfl, rfl, month, _, rfl, hMonth, _, _, rfl, rfl, day, _,
      rfl, hDay, rfl⟩

theorem reads_clock (hCase : f.ignoreCase = false) : clock.Reads f before w after ↔ IsClock w := by
  simp only [clock, Tree.reads_run, accepts_clock_iff hCase, IsClock]
  simp [Nat.succ_le_iff, List.length_pos_iff, and_comm]

theorem reads_zone (hCase : f.ignoreCase = false) : zone.Reads f before w after ↔ IsZone w := by
  simp only [zone, Tree.reads_alt, Tree.reads_word hCase, Tree.reads_ofPieces_cons,
    Tree.reads_ofPieces_append, Tree.ofPieces_singleton, Reading.andThen, reads_digits hCase,
    Tree.reads_char, accepts_sign_iff hCase]
  constructor
  · rintro (rfl | ⟨_, _, rfl, ⟨sign, rfl, hSign⟩, hours, _, rfl, hHours, _, minutes, rfl, rfl, hMinutes⟩)
    · exact .inl rfl
    · exact .inr ⟨sign, hours, minutes, rfl, hSign, hHours, hMinutes⟩
  · rintro (rfl | ⟨sign, hours, minutes, rfl, hSign, hHours, hMinutes⟩)
    · exact .inl rfl
    · exact .inr ⟨[sign], _, rfl, ⟨sign, rfl, hSign⟩, hours, _, rfl, hHours, _, minutes, rfl, rfl,
        hMinutes⟩

/-! ## Under the flags of the rule -/

/-- Nothing stands here, or what a line ends with. -/
def AtEdge (t : Text) : Prop := ∀ u ∈ t.head?, Text.isLineEnd u.toNat = true

def StampEnds (t : Text) : Prop := ∀ u ∈ t.head?, IsGap u ∨ Text.isLineEnd u.toNat = true

def DateAhead (t : Text) : Prop := ∃ lead date rest, t = lead ++ (date ++ rest) ∧ Gaps lead ∧ IsDate date

theorem reads_stop : (Tree.assertion .stop).Reads lineFlags before w after ↔ w = [] ∧ AtEdge after := by
  cases after <;> simp [Tree.Reads, Matcher.holds, Matcher.headIs, lineFlags, Cursor.standing, AtEdge]

theorem reads_start : (Tree.assertion .start).Reads lineFlags before w after ↔ w = [] ∧ AtEdge before := by
  cases before <;> simp [Tree.Reads, Matcher.holds, Matcher.headIs, lineFlags, Cursor.standing, AtEdge]

theorem reads_levelChoice : levelChoice.Reads lineFlags before w after ↔ w ∈ errorLevels :=
  Tree.reads_choice rfl (by simp [errorLevels])

theorem reads_header : (Tree.ofPieces headerPieces).Reads lineFlags before w after ↔
    AtEdge before ∧ ∃ h : Header, h.IsError ∧ w = h.text := by
  simp only [headerPieces, Tree.reads_ofPieces_cons, Tree.reads_ofPieces_append, Reading.andThen,
    reads_start, Tree.reads_word (show lineFlags.ignoreCase = false from rfl),
    @reads_gap lineFlags _ _ _ rfl, reads_levelChoice]
  constructor
  · rintro ⟨_, _, rfl, ⟨rfl, hStart⟩, _, _, rfl, rfl, afterName, _, rfl, hAfterName, _, _, rfl, rfl,
      beforeLevel, _, rfl, hBeforeLevel, level, _, rfl, hLevel, afterLevel, _, rfl, hAfterLevel, rfl⟩
    exact ⟨hStart, ⟨afterName, beforeLevel, level, afterLevel⟩,
      ⟨hAfterName, hBeforeLevel, hLevel, hAfterLevel⟩, rfl⟩
  · rintro ⟨hStart, h, hError, rfl⟩
    exact ⟨[], _, rfl, ⟨rfl, hStart⟩, _, _, rfl, rfl, h.afterName, _, rfl, hError.afterName, _, _, rfl, rfl,
      h.beforeLevel, _, rfl, hError.beforeLevel, h.level, _, rfl, hError.level, h.afterLevel, _, rfl,
      hError.afterLevel, rfl⟩

theorem reads_boundary : (Tree.look true false (.alt (.char (.oneOf false [only ' ', only '\t']))
    (.assertion .stop))).Reads lineFlags before w after ↔ w = [] ∧ StampEnds after := by
  rw [Tree.reads_ahead]
  simp only [Tree.reads_alt, reads_stop, Tree.reads_char, @accepts_gap_iff lineFlags _ rfl]
  refine and_congr_right fun _ => ?_
  constructor
  · rintro ⟨_, z, rfl, ⟨u, rfl, hGap⟩ | ⟨rfl, hStop⟩⟩
    · rintro _ ⟨⟩
      exact .inl hGap
    · exact fun u hu => .inr (hStop u hu)
  · intro hEnds
    cases after with
    | nil => exact ⟨[], [], rfl, .inr ⟨rfl, by simp [AtEdge]⟩⟩
    | cons u rest =>
      rcases hEnds u rfl with hGap | hEnd
      · exact ⟨[u], rest, rfl, .inl ⟨u, rfl, hGap⟩⟩
      · refine ⟨[], u :: rest, rfl, .inr ⟨rfl, ?_⟩⟩
        rintro _ ⟨⟩
        exact hEnd

theorem reads_stampEnd : (Tree.ofPieces stampEnd).Reads lineFlags before w after ↔
    ∃ time place, w = time ++ place ∧ IsClock time ∧ (place = [] ∨ IsZone place) ∧ StampEnds after := by
  simp only [stampEnd, Tree.reads_ofPieces_cons, Tree.ofPieces_singleton, Reading.andThen,
    @reads_clock lineFlags _ _ _ rfl, Tree.reads_optional, @reads_zone lineFlags _ _ _ rfl, reads_boundary]
  constructor
  · rintro ⟨time, _, rfl, hTime, place, _, rfl, hPlace, rfl, hEnds⟩
    exact ⟨time, place, by rw [List.append_nil], hTime, hPlace, hEnds⟩
  · rintro ⟨time, place, rfl, hTime, hPlace, hEnds⟩
    exact ⟨time, place, rfl, hTime, place, [], (List.append_nil place).symm, hPlace, rfl, hEnds⟩

theorem reads_stampAfterGap : stampAfterGap.Reads lineFlags before w after ↔
    ∃ lead stamp, w = lead ++ stamp ∧ Gaps lead ∧ IsStamp stamp ∧ StampEnds after := by
  simp only [stampAfterGap, Tree.reads_ofPieces_cons, Tree.reads_ofPieces_append, Reading.andThen,
    @reads_gap lineFlags _ _ _ rfl, @reads_date lineFlags _ _ _ rfl, reads_stampEnd]
  constructor
  · rintro ⟨lead, _, rfl, hLead, date, _, rfl, hDate, time, place, rfl, hTime, hPlace, hEnds⟩
    exact ⟨lead, _, rfl, hLead, ⟨date, time, place, rfl, hDate, hTime, hPlace⟩, hEnds⟩
  · rintro ⟨lead, _, rfl, hLead, ⟨date, time, place, rfl, hDate, hTime, hPlace⟩, hEnds⟩
    exact ⟨lead, _, rfl, hLead, date, _, rfl, hDate, time, place, rfl, hTime, hPlace, hEnds⟩

theorem reads_noDateAhead : noDateAhead.Reads lineFlags before w after ↔ w = [] ∧ ¬ DateAhead after := by
  rw [noDateAhead, Tree.reads_notAhead]
  simp only [Tree.reads_ofPieces_cons, Reading.andThen, @reads_gap lineFlags _ _ _ rfl,
    @reads_date lineFlags _ _ _ rfl]
  refine and_congr_right fun _ => not_congr ?_
  constructor
  · rintro ⟨_, rest, rfl, lead, date, rfl, hLead, hDate⟩
    exact ⟨lead, date, rest, List.append_assoc _ _ _, hLead, hDate⟩
  · rintro ⟨lead, date, rest, rfl, hLead, hDate⟩
    exact ⟨lead ++ date, rest, (List.append_assoc _ _ _).symm, lead, date, rfl, hLead, hDate⟩

/-- What stands between the level and the message, where `after` is the message and the rest. -/
def IsFront (w after : Text) : Prop :=
  ∃ opening space, w = opening ++ space ∧
    (opening = [] ∨ ∃ lead stamp, opening = lead ++ stamp ∧ Gaps lead ∧ IsStamp stamp ∧
      StampEnds (space ++ after)) ∧
    ¬ DateAhead (space ++ after) ∧ Gaps space

theorem reads_front : (Tree.ofPieces frontPieces).Reads lineFlags before w after ↔ IsFront w after := by
  simp only [IsFront, frontPieces, Tree.reads_ofPieces_cons, Tree.ofPieces_singleton, Reading.andThen,
    Tree.reads_optional, reads_stampAfterGap, reads_noDateAhead, @reads_gap lineFlags _ _ _ rfl]
  constructor
  · rintro ⟨opening, _, rfl, hOpening, _, space, rfl, ⟨rfl, hNoDate⟩, hSpace⟩
    exact ⟨opening, space, rfl, hOpening, hNoDate, hSpace⟩
  · rintro ⟨opening, space, rfl, hOpening, hNoDate, hSpace⟩
    exact ⟨opening, space, rfl, hOpening, [], space, rfl, ⟨rfl, hNoDate⟩, hSpace⟩

theorem IsSolid.isLineEnd (h : IsSolid u) : Text.isLineEnd u.toNat = false := by
  by_contra hEnd
  rw [IsSolid, Text.isBlank_of_isLineEnd (by simpa using hEnd)] at h
  exact Bool.noConfusion h

theorem isMessage_iff : IsMessage w ↔ ∃ u more, w = u :: more ∧ IsSolid u ∧ (more = [] ∨
    ∃ middle v, more = middle ++ [v] ∧ (∀ x ∈ middle, Text.isLineEnd x.toNat = false) ∧ IsSolid v) := by
  constructor
  · rintro ⟨hSome, hHead, hLast, hLine⟩
    obtain ⟨u, more, rfl⟩ := List.exists_cons_of_ne_nil hSome
    refine ⟨u, more, rfl, hHead u rfl, ?_⟩
    rcases List.eq_nil_or_concat more with rfl | ⟨middle, v, rfl⟩
    · exact .inl rfl
    · rw [List.concat_eq_append] at hLast hLine ⊢
      refine .inr ⟨middle, v, rfl, fun x hx => hLine x (by simp [hx]), hLast v ?_⟩
      rw [← List.cons_append, List.getLast?_concat]
      rfl
  · rintro ⟨u, _, rfl, hHead, rfl | ⟨middle, v, rfl, hMiddle, hLast⟩⟩
    · refine ⟨List.cons_ne_nil u [], ?_, ?_, ?_⟩
      · rintro _ ⟨⟩
        exact hHead
      · rintro _ ⟨⟩
        exact hHead
      · intro x hx
        rw [List.mem_singleton.mp hx]
        exact hHead.isLineEnd
    · refine ⟨List.cons_ne_nil u _, ?_, ?_, ?_⟩
      · rintro _ ⟨⟩
        exact hHead
      · rw [← List.cons_append, List.getLast?_concat]
        rintro _ ⟨⟩
        exact hLast
      · intro x hx
        rcases List.mem_cons.mp hx with rfl | hx
        · exact hHead.isLineEnd
        · rcases List.mem_append.mp hx with hx | hx
          · exact hMiddle x hx
          · rw [List.mem_singleton.mp hx]
            exact hLast.isLineEnd

theorem reads_message : message.Reads lineFlags before w after ↔ IsMessage w := by
  rw [isMessage_iff]
  simp only [message, Tree.reads_seq, Tree.reads_char, Tree.reads_optional, Tree.reads_run, Reading.andThen,
    @accepts_solid_iff lineFlags _ rfl, @accepts_anyChar_iff lineFlags _ rfl]
  constructor
  · rintro ⟨_, _, rfl, ⟨u, rfl, hHead⟩, rfl | ⟨middle, _, rfl, ⟨hMiddle, -⟩, v, rfl, hLast⟩⟩
    · exact ⟨u, [], rfl, hHead, .inl rfl⟩
    · exact ⟨u, _, rfl, hHead, .inr ⟨middle, v, rfl, hMiddle, hLast⟩⟩
  · rintro ⟨u, _, rfl, hHead, rfl | ⟨middle, v, rfl, hMiddle, hLast⟩⟩
    · exact ⟨[u], [], rfl, ⟨u, rfl, hHead⟩, .inl rfl⟩
    · exact ⟨[u], _, rfl, ⟨u, rfl, hHead⟩,
        .inr ⟨middle, [v], rfl, ⟨hMiddle, Nat.zero_le _, by simp⟩, v, rfl, hLast⟩⟩

theorem reads_back : (Tree.ofPieces backPieces).Reads lineFlags before w after ↔
    Gaps w ∧ AtEdge after := by
  simp only [backPieces, Tree.reads_ofPieces_cons, Tree.ofPieces_singleton, Reading.andThen,
    @reads_gap lineFlags _ _ _ rfl, reads_stop]
  constructor
  · rintro ⟨space, _, rfl, hSpace, rfl, hStop⟩
    rw [List.append_nil]
    exact ⟨hSpace, hStop⟩
  · rintro ⟨hSpace, hStop⟩
    exact ⟨w, [], (List.append_nil w).symm, hSpace, rfl, hStop⟩

/-! ## The whole pattern -/

/-- A text read by the pattern, part by part, up to the end of its line. -/
structure Reading (t header front body tail rest : Text) : Prop where
  text : t = header ++ (front ++ (body ++ (tail ++ rest)))
  header : ∃ h : Header, h.IsError ∧ header = h.text
  front : IsFront front (body ++ (tail ++ rest))
  body : IsMessage body
  tail : Gaps tail
  stop : AtEdge rest

theorem mem_outcomes_iff {tree : Tree} (hLeaves : tree.leavesGroups = true) (s s' : State) :
    s' ∈ Matcher.outcomes lineFlags tree .forward s ↔ s.Leads (tree.Reads lineFlags) s' :=
  Matcher.mem_outcomes_iff rfl hLeaves s s'

theorem mem_outcomes_unknownError_iff {s s' : State} :
    s' ∈ Matcher.outcomes lineFlags Rule.unknownError.pattern.tree .forward s ↔
      ∃ a b c, s.Leads ((Tree.ofPieces headerPieces).Reads lineFlags) a ∧
        a.Leads ((Tree.ofPieces frontPieces).Reads lineFlags) b ∧
        b.Leads (message.Reads lineFlags) c ∧
        (c.setGroup 0 (b.cursor.between c.cursor)).Leads
          ((Tree.ofPieces backPieces).Reads lineFlags) s' := by
  have hGroup : Tree.group 0 message :: backPieces = [.group 0 message] ++ backPieces := rfl
  rw [unknownError_eq, pieces, Matcher.outcomes_ofPieces_append, hGroup]
  simp only [Matcher.outcomes_ofPieces_append, List.mem_flatMap, Tree.ofPieces_singleton, Matcher.outcomes,
    List.mem_map, mem_outcomes_iff (show (Tree.ofPieces headerPieces).leavesGroups = true from rfl),
    mem_outcomes_iff (show (Tree.ofPieces frontPieces).leavesGroups = true from rfl),
    mem_outcomes_iff (show message.leavesGroups = true from rfl),
    mem_outcomes_iff (show (Tree.ofPieces backPieces).leavesGroups = true from rfl)]
  constructor
  · rintro ⟨a, hHeader, b, hFront, _, ⟨c, hMessage, rfl⟩, hBack⟩
    exact ⟨a, b, c, hHeader, hFront, hMessage, hBack⟩
  · rintro ⟨a, b, c, hHeader, hFront, hMessage, hBack⟩
    exact ⟨a, hHeader, b, hFront, _, ⟨c, hMessage, rfl⟩, hBack⟩

theorem exists_reading {t : Text} {s : State}
    (h : s ∈ Matcher.outcomes lineFlags Rule.unknownError.pattern.tree .forward ⟨.start t, [none]⟩) :
    ∃ header front body tail, Reading t header front body tail s.cursor.after ∧ s.groups = [some body] := by
  obtain ⟨_, _, _, ⟨header, far, hText, hHeader, rfl⟩, ⟨front, more, hFar, hFront, rfl⟩,
    ⟨body, last, hMore, hMessage, rfl⟩, ⟨tail, rest, hLast, hBack, rfl⟩⟩ :=
    mem_outcomes_unknownError_iff.mp h
  obtain rfl : t = header ++ far := hText
  obtain rfl : far = front ++ more := hFar
  rw [State.between_past hMore]
  obtain rfl : more = body ++ last := hMore
  obtain rfl : last = tail ++ rest := hLast
  obtain ⟨hTail, hStop⟩ := reads_back.mp hBack
  refine ⟨header, front, body, tail, ⟨rfl, (reads_header.mp hHeader).2, reads_front.mp hFront,
    reads_message.mp hMessage, hTail, hStop⟩, rfl⟩

theorem Reading.exists_outcome {t header front body tail rest : Text}
    (h : Reading t header front body tail rest) :
    ∃ s, s ∈ Matcher.outcomes lineFlags Rule.unknownError.pattern.tree .forward ⟨.start t, [none]⟩ := by
  refine ⟨_, mem_outcomes_unknownError_iff.mpr ⟨_, _, _,
    ⟨header, _, h.text, reads_header.mpr ⟨?_, h.header⟩, rfl⟩,
    ⟨front, _, rfl, reads_front.mpr h.front, rfl⟩,
    ⟨body, _, rfl, reads_message.mpr h.body, rfl⟩,
    ⟨tail, rest, rfl, reads_back.mpr ⟨h.tail, h.stop⟩, rfl⟩⟩⟩
  rintro _ ⟨⟩

end LogTriage.ErrorLine
