import LogTriage.Proofs.Timestamp.Calendar
import LogTriage.Proofs.Timestamp.Written

/-! # The instant of a timestamp

A text names an instant exactly when it is, up to blanks around it, the written form of a stamp with a real
date and time. Without a fraction the instant is that many days from the first of January 1970 and the time
of day, less the offset, so two such texts have equal values exactly when they name one instant.
-/

namespace LogTriage.Timestamp

set_option autoImplicit false

/-- Every part is in its place, with either mark before a fraction and blanks around it all. -/
def Stamp.Writes (s : Stamp) (t : Text) : Prop :=
  s.Fits ∧ ∃ mark, IsMark mark ∧ Text.trim t = s.written mark

/-- The day, a year below 100 being one of the twentieth century. -/
def Stamp.date (s : Stamp) : Date :=
  ⟨if s.year < 100 then 1900 + s.year else s.year, s.month, s.day⟩

def Offset.IsReal : Offset → Prop
  | utc => True
  | signed _ hours minutes => hours ≤ 23 ∧ minutes ≤ 59

structure Stamp.IsReal (s : Stamp) : Prop where
  date : s.date.IsReal
  hour : s.hour ≤ 23
  minute : s.minute ≤ 59
  second : s.second ≤ 59
  offset : ∀ o ∈ s.offset, o.IsReal

def epoch : Date := ⟨1970, 1, 1⟩

/-- Milliseconds since midnight of the whole seconds. -/
def Stamp.timeOfDay (s : Stamp) : Int := (s.hour * 3600 + s.minute * 60 + s.second : Nat) * 1000

/-- Minutes by which the clock on the wall is ahead of UTC. -/
def Offset.ahead : Offset → Int
  | utc => 0
  | signed true hours minutes => -((hours * 60 + minutes : Nat) : Int)
  | signed false hours minutes => (hours * 60 + minutes : Nat)

def Stamp.ahead (s : Stamp) : Int := s.offset.elim 0 Offset.ahead

/-- From `s` to `t` the clocks on the wall move on by just as much as the offset does. -/
def Stamp.SameInstant (s t : Stamp) : Prop :=
  ∃ n, s.date.Apart t.date n ∧
    n * 86400000 + t.timeOfDay - s.timeOfDay = (t.ahead - s.ahead) * 60000

theorem Stamp.date_year (s : Stamp) : s.date.year = fullYear s.year := by
  simp only [date, fullYear, Nat.lt_succ_iff]

theorem Stamp.date_year_pos (s : Stamp) : 1 ≤ s.date.year := by
  simp only [date]
  split <;> omega

theorem Offset.isValid_iff (o : Offset) : o.isValid = true ↔ o.IsReal := by
  cases o with
  | utc => simp [isValid, IsReal]
  | signed negative hours minutes => simp [isValid, IsReal]

theorem Stamp.isValid_iff (s : Stamp) : s.isValid = true ↔ s.IsReal := by
  have hOffset : (s.offset.map (·.isValid)).getD true = true ↔ ∀ o ∈ s.offset, o.IsReal := by
    cases s.offset <;> simp [Offset.isValid_iff]
  simp only [isValid, Bool.and_eq_true, decide_eq_true_eq, hOffset, ← date_year]
  constructor
  · rintro ⟨⟨⟨⟨⟨⟨⟨hMonth, hMonthLe⟩, hDay⟩, hDayLe⟩, hHour⟩, hMinute⟩, hSecond⟩, hOffset⟩
    have hDate := Date.isReal_iff.mpr ⟨s.date_year_pos, hMonth, hMonthLe, hDay, hDayLe⟩
    exact ⟨hDate, hHour, hMinute, hSecond, hOffset⟩
  · rintro ⟨hDate, hHour, hMinute, hSecond, hOffset⟩
    obtain ⟨-, hMonth, hMonthLe, hDay, hDayLe⟩ := Date.isReal_iff.mp hDate
    exact ⟨⟨⟨⟨⟨⟨⟨hMonth, hMonthLe⟩, hDay⟩, hDayLe⟩, hHour⟩, hMinute⟩, hSecond⟩, hOffset⟩

theorem Stamp.writes_iff {s : Stamp} {t : Text} : s.Writes t ↔ read (Text.trim t) = some s := by
  rw [read_eq_some_iff]
  constructor
  · rintro ⟨hFits, mark, hMark, hWritten⟩
    exact ⟨mark, hMark, hWritten, hFits⟩
  · rintro ⟨mark, hMark, hWritten, hFits⟩
    exact ⟨hFits, mark, hMark, hWritten⟩

theorem parse_eq_some_iff {t : Text} {x : Rat} :
    parse t = some x ↔ ∃ s : Stamp, s.Writes t ∧ s.IsReal ∧ s.instant = x := by
  unfold parse
  simp only [Stamp.writes_iff, ← Stamp.isValid_iff]
  constructor
  · intro h
    split at h
    · rename_i s hRead
      rw [Option.ite_none_right_eq_some] at h
      exact ⟨s, hRead, h.1, Option.some.inj h.2⟩
    · cases h
  · rintro ⟨s, hRead, hValid, rfl⟩
    rw [hRead]
    exact if_pos hValid

theorem epoch_isReal : epoch.IsReal := Date.isReal_iff.mpr (by decide)

theorem number_epoch : epoch.number = 0 := by decide

namespace Stamp

theorem wholeMilliseconds_eq (s : Stamp) :
    s.wholeMilliseconds = s.date.number * 86400000 + s.timeOfDay := by
  rw [wholeMilliseconds, ← date_year]
  rfl

theorem offsetMilliseconds_eq (s : Stamp) : s.offsetMilliseconds = s.ahead * 60000 := by
  unfold offsetMilliseconds ahead
  rcases s.offset with _ | _ | ⟨_ | _, hours, minutes⟩
  · rfl
  · rfl
  · rfl
  · exact (Int.neg_mul _ _).symm

theorem IsReal.apart_epoch_iff {s : Stamp} (hReal : s.IsReal) (n : Int) :
    epoch.Apart s.date n ↔ s.date.number = n := by
  rw [Date.apart_iff epoch_isReal hReal.date, number_epoch, Int.sub_zero]

theorem instant_of_fraction_eq_none {s : Stamp} (hFraction : s.fraction = none) :
    s.instant = ((s.date.number * 86400000 + s.timeOfDay - s.ahead * 60000 : Int) : Rat) := by
  rw [instant, hFraction, wholeMilliseconds_eq, offsetMilliseconds_eq]

theorem sameInstant_iff {s t : Stamp} (hs : s.IsReal) (ht : t.IsReal) :
    s.SameInstant t ↔ s.date.number * 86400000 + s.timeOfDay - s.ahead * 60000 =
      t.date.number * 86400000 + t.timeOfDay - t.ahead * 60000 := by
  simp only [SameInstant, Date.apart_iff hs.date ht.date]
  constructor
  · rintro ⟨n, rfl, hClocks⟩
    omega
  · intro h
    refine ⟨_, rfl, ?_⟩
    omega

end Stamp

theorem parse_of_fraction_eq_none {t : Text} {s : Stamp} (hWrites : s.Writes t) (hReal : s.IsReal)
    (hFraction : s.fraction = none) : parse t =
      some ((s.date.number * 86400000 + s.timeOfDay - s.ahead * 60000 : Int) : Rat) := by
  rw [← Stamp.instant_of_fraction_eq_none hFraction]
  exact parse_eq_some_iff.mpr ⟨s, hWrites, hReal, rfl⟩

theorem parse_written (t u : Text) :
    ((parse t).isSome ↔ ∃ s : Stamp, s.Writes t ∧ s.IsReal) ∧
    ∀ s : Stamp, s.Writes t → s.IsReal → s.fraction = none →
      (∀ x, parse t = some x ↔ ∃ n, epoch.Apart s.date n ∧
        x = ((n * 86400000 + s.timeOfDay - s.ahead * 60000 : Int) : Rat)) ∧
      ∀ r : Stamp, r.Writes u → r.IsReal → r.fraction = none →
        (parse t = parse u ↔ s.SameInstant r) := by
  constructor
  · constructor
    · intro h
      obtain ⟨x, hParse⟩ := Option.isSome_iff_exists.mp h
      obtain ⟨s, hWrites, hReal, -⟩ := parse_eq_some_iff.mp hParse
      exact ⟨s, hWrites, hReal⟩
    · rintro ⟨s, hWrites, hReal⟩
      rw [parse_eq_some_iff.mpr ⟨s, hWrites, hReal, rfl⟩]
      rfl
  · intro s hWrites hReal hFraction
    have hParse := parse_of_fraction_eq_none hWrites hReal hFraction
    constructor
    · intro x
      rw [hParse, Option.some.injEq]
      constructor
      · rintro rfl
        exact ⟨s.date.number, (hReal.apart_epoch_iff _).mpr rfl, rfl⟩
      · rintro ⟨n, hApart, rfl⟩
        rw [(hReal.apart_epoch_iff n).mp hApart]
    · intro r hWritesOther hRealOther hFractionOther
      rw [hParse, parse_of_fraction_eq_none hWritesOther hRealOther hFractionOther,
        Option.some.injEq, Rat.intCast_inj, Stamp.sameInstant_iff hReal hRealOther]

def leapDayEvening : Stamp := ⟨2024, 2, 29, 23, 30, 0, none, some (.signed true 1 0)⟩

def marchMorning : Stamp := ⟨2024, 3, 1, 0, 30, 0, none, some .utc⟩

theorem parse_written_leapDay :
    parse (Text.ofString "2024-02-29T23:30:00-01:00") = parse (Text.ofString " 2024-03-01T00:30:00Z") := by
  have hEvening : leapDayEvening.Writes (Text.ofString "2024-02-29T23:30:00-01:00") :=
    Stamp.writes_iff.mpr (by decide +kernel)
  have hMorning : marchMorning.Writes (Text.ofString " 2024-03-01T00:30:00Z") :=
    Stamp.writes_iff.mpr (by decide +kernel)
  have hEveningReal : leapDayEvening.IsReal := leapDayEvening.isValid_iff.mp (by decide)
  have hMorningReal : marchMorning.IsReal := marchMorning.isValid_iff.mp (by decide)
  have hInstant : leapDayEvening.SameInstant marchMorning := ⟨1, rfl, by decide⟩
  exact (((parse_written _ _).2 _ hEvening hEveningReal rfl).2 _ hMorning hMorningReal rfl).mpr hInstant

end LogTriage.Timestamp
