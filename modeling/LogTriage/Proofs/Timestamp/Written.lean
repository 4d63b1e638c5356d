import LogTriage.Timestamp
import LogTriage.Proofs.Text.Decimal
import Mathlib.Data.List.TakeWhile

/-! # The written form of a timestamp

`Stamp.written` writes a stamp down, with either mark before its fraction. Reading accepts exactly what is
written so, and gives the stamp back; a stamp without a fraction is written in one way only.
-/

namespace LogTriage.Timestamp

set_option autoImplicit false

open Text

/-- What may stand before a fraction. -/
def IsMark (u : CodeUnit) : Prop := u = unit '.' ∨ u = unit ','

instance (u : CodeUnit) : Decidable (IsMark u) := inferInstanceAs (Decidable (_ ∨ _))

def Offset.written : Offset → Text
  | utc => [unit 'Z']
  | signed negative hours minutes =>
    unit (if negative then '-' else '+') :: padded 2 hours ++ unit ':' :: padded 2 minutes

def Stamp.written (mark : CodeUnit) (s : Stamp) : Text :=
  padded 4 s.year ++ unit '-' :: padded 2 s.month ++ unit '-' :: padded 2 s.day ++
    unit 'T' :: padded 2 s.hour ++ unit ':' :: padded 2 s.minute ++ unit ':' :: padded 2 s.second ++
    (s.fraction.elim [] (mark :: ·) ++ s.offset.elim [] Offset.written)

/-- Two digits are enough for either part. -/
def Offset.Fits : Offset → Prop
  | utc => True
  | signed _ hours minutes => hours < 100 ∧ minutes < 100

/-- Every part has room in its place, and a fraction consists of digits. -/
structure Stamp.Fits (s : Stamp) : Prop where
  year : s.year < 10000
  month : s.month < 100
  day : s.day < 100
  hour : s.hour < 100
  minute : s.minute < 100
  second : s.second < 100
  fraction : ∀ ds ∈ s.fraction, ds ≠ [] ∧ ∀ u ∈ ds, isDigit u = true
  offset : ∀ o ∈ s.offset, o.Fits

/-! ## Parts -/

theorem digits_eq_some_iff {width n : Nat} {t rest : Text} :
    digits width t = some (n, rest) ↔ n < 10 ^ width ∧ t = padded width n ++ rest := by
  simp only [digits, Bool.and_eq_true, decide_eq_true_eq, List.all_eq_true, Option.ite_none_right_eq_some,
    Option.some.injEq, Prod.mk.injEq]
  constructor
  · rintro ⟨⟨hLength, hDigits⟩, rfl, rfl⟩
    have hLt := decimalValue_lt hDigits
    have hPadded := padded_decimalValue hDigits
    rw [hLength] at hLt hPadded
    rw [hPadded, List.take_append_drop]
    exact ⟨hLt, rfl⟩
  · rintro ⟨hLt, rfl⟩
    have hTake : (padded width n ++ rest).take width = padded width n :=
      List.take_left' (length_padded width n)
    rw [hTake]
    refine ⟨⟨length_padded width n, fun u hu => isDigit_of_mem_padded hu⟩,
      decimalValue_padded hLt, List.drop_left' (length_padded width n)⟩

theorem skip_eq_some_iff {mark : Char} (hNul : mark ≠ '\x00') (hSmall : mark.toNat < 65536)
    {t rest : Text} : skip mark t = some rest ↔ t = unit mark :: rest := by
  cases t with
  | nil => simp [skip]
  | cons u more =>
    simp only [skip, beq_iff_eq, Option.ite_none_right_eq_some, Option.some.injEq,
      charOf_unit_iff hNul hSmall, List.cons.injEq]

theorem readHoursMinutes_eq_some_iff {t rest : Text} {hours minutes : Nat} :
    readHoursMinutes t = some (hours, minutes, rest) ↔ hours < 100 ∧ minutes < 100 ∧
      t = padded 2 hours ++ unit ':' :: (padded 2 minutes ++ rest) := by
  simp only [readHoursMinutes, Option.bind_eq_bind, Option.bind_eq_some_iff, Prod.exists,
    digits_eq_some_iff, @skip_eq_some_iff ':' (by decide) (by decide), Option.pure_def,
    Option.some.injEq, Prod.mk.injEq]
  constructor
  · rintro ⟨h, _, ⟨hHours, rfl⟩, _, rfl, m, _, ⟨hMinutes, rfl⟩, rfl, rfl, rfl⟩
    exact ⟨hHours, hMinutes, rfl⟩
  · rintro ⟨hHours, hMinutes, rfl⟩
    exact ⟨hours, _, ⟨hHours, rfl⟩, _, rfl, minutes, rest, ⟨hMinutes, rfl⟩, rfl, rfl, rfl⟩

theorem isMark_iff {u : CodeUnit} : IsMark u ↔ charOf u = '.' ∨ charOf u = ',' := by
  rw [IsMark, charOf_unit_iff (by decide) (by decide), charOf_unit_iff (by decide) (by decide)]

/-- What a fraction may be followed by: the end, or a unit that is neither a digit nor a mark. -/
def EndsFraction (rest : Text) : Prop := ∀ u ∈ rest.head?, isDigit u = false ∧ ¬ IsMark u

theorem EndsFraction.takeWhile_append {ds rest : Text} (hRest : EndsFraction rest)
    (hDigits : ∀ u ∈ ds, isDigit u = true) : (ds ++ rest).takeWhile isDigit = ds := by
  have hNone : rest.takeWhile isDigit = [] := by
    cases rest with
    | nil => rfl
    | cons u more => simp [(hRest u rfl).1]
  rw [List.takeWhile_append_of_pos hDigits, hNone, List.append_nil]

theorem EndsFraction.dropWhile_append {ds rest : Text} (hRest : EndsFraction rest)
    (hDigits : ∀ u ∈ ds, isDigit u = true) : (ds ++ rest).dropWhile isDigit = rest := by
  have hSplit := @List.takeWhile_append_dropWhile _ isDigit (ds ++ rest)
  rw [hRest.takeWhile_append hDigits] at hSplit
  exact List.append_cancel_left hSplit

theorem readFraction_written {mark : CodeUnit} {fraction : Option Text} {rest : Text}
    (hMark : IsMark mark) (hFraction : ∀ ds ∈ fraction, ds ≠ [] ∧ ∀ u ∈ ds, isDigit u = true)
    (hRest : EndsFraction rest) :
    readFraction (fraction.elim [] (mark :: ·) ++ rest) = some (fraction, rest) := by
  rw [isMark_iff] at hMark
  cases fraction with
  | none =>
    cases rest with
    | nil => rfl
    | cons u more =>
      have hNot := (hRest u rfl).2
      rw [isMark_iff, not_or] at hNot
      simp [readFraction, hNot]
  | some ds =>
    obtain ⟨hNonempty, hDigits⟩ := hFraction ds rfl
    obtain ⟨d, ds, rfl⟩ := List.exists_cons_of_ne_nil hNonempty
    simp only [readFraction, Option.elim_some, List.cons_append, beq_iff_eq, Bool.or_eq_true, hMark,
      if_true]
    rw [← List.cons_append, hRest.takeWhile_append hDigits, hRest.dropWhile_append hDigits]

theorem readFraction_eq_some {t rest : Text} {fraction : Option Text}
    (h : readFraction t = some (fraction, rest)) :
    ∃ mark, IsMark mark ∧ t = fraction.elim [] (mark :: ·) ++ rest ∧
      ∀ ds ∈ fraction, ds ≠ [] ∧ ∀ u ∈ ds, isDigit u = true := by
  have hPlain : fraction = none → t = rest → ∃ mark, IsMark mark ∧
      t = fraction.elim [] (mark :: ·) ++ rest ∧
      ∀ ds ∈ fraction, ds ≠ [] ∧ ∀ u ∈ ds, isDigit u = true := by
    rintro rfl rfl
    exact ⟨unit '.', .inl rfl, rfl, by simp⟩
  cases t with
  | nil =>
    simp only [readFraction, Option.some.injEq, Prod.mk.injEq] at h
    exact hPlain h.1.symm h.2
  | cons u more =>
    simp only [readFraction, Bool.or_eq_true, beq_iff_eq] at h
    split at h
    · rename_i hMark
      cases hTaken : more.takeWhile isDigit with
      | nil => simp [hTaken] at h
      | cons d ds =>
        simp only [hTaken, Option.some.injEq, Prod.mk.injEq] at h
        obtain ⟨rfl, rfl⟩ := h
        refine ⟨u, isMark_iff.mpr hMark, ?_, ?_⟩
        · rw [Option.elim_some, List.cons_append, ← hTaken, List.takeWhile_append_dropWhile]
        · rintro _ ⟨⟩
          refine ⟨by simp, fun v hv => ?_⟩
          exact List.mem_takeWhile_imp (hTaken ▸ hv)
    · simp only [Option.some.injEq, Prod.mk.injEq] at h
      exact hPlain h.1.symm h.2

def readSigned (negative : Bool) (t : Text) : Option (Option Offset) :=
  match readHoursMinutes t with
  | some (hours, minutes, []) => some (some (.signed negative hours minutes))
  | _ => none

theorem readSigned_eq_some_iff {negative : Bool} {t : Text} {o : Option Offset} :
    readSigned negative t = some o ↔ ∃ hours minutes, hours < 100 ∧ minutes < 100 ∧
      t = padded 2 hours ++ unit ':' :: padded 2 minutes ∧ o = some (.signed negative hours minutes) := by
  constructor
  · intro h
    rw [readSigned] at h
    split at h
    · rename_i hours minutes hParts
      rw [readHoursMinutes_eq_some_iff, List.append_nil] at hParts
      exact ⟨hours, minutes, hParts.1, hParts.2.1, hParts.2.2, (Option.some.inj h).symm⟩
    · cases h
  · rintro ⟨hours, minutes, hHours, hMinutes, rfl, rfl⟩
    have hParts : readHoursMinutes (padded 2 hours ++ unit ':' :: padded 2 minutes) =
        some (hours, minutes, []) := by
      rw [readHoursMinutes_eq_some_iff, List.append_nil]
      exact ⟨hHours, hMinutes, rfl⟩
    rw [readSigned, hParts]

theorem readOffset_signed {t : Text} {sign : Char} (hSign : sign = '+' ∨ sign = '-') :
    readOffset (unit sign :: t) = readSigned (sign == '-') t := by
  have hChar : charOf (unit sign) = sign := by
    rcases hSign with rfl | rfl <;> decide
  rw [readOffset, hChar]
  rcases hSign with rfl | rfl
  · rfl
  · rfl

theorem readOffset_eq_some_iff {t : Text} {offset : Option Offset} :
    readOffset t = some offset ↔ t = offset.elim [] Offset.written ∧ ∀ o ∈ offset, o.Fits := by
  constructor
  · intro h
    rcases t with _ | ⟨u, more⟩
    · cases h
      exact ⟨rfl, by simp⟩
    · by_cases hUtc : charOf u = 'Z'
      · obtain rfl := (charOf_unit_iff (by decide) (by decide)).mp hUtc
        cases more with
        | nil =>
          cases h
          exact ⟨rfl, by simp [Offset.Fits]⟩
        | cons v more => simp [readOffset, hUtc] at h
      · by_cases hSigned : charOf u = '+' ∨ charOf u = '-'
        · obtain ⟨sign, hSign, rfl⟩ : ∃ sign, (sign = '+' ∨ sign = '-') ∧ u = unit sign := by
            rcases hSigned with hPlus | hMinus
            · exact ⟨'+', .inl rfl, (charOf_unit_iff (by decide) (by decide)).mp hPlus⟩
            · exact ⟨'-', .inr rfl, (charOf_unit_iff (by decide) (by decide)).mp hMinus⟩
          rw [readOffset_signed hSign] at h
          obtain ⟨hours, minutes, hHours, hMinutes, rfl, rfl⟩ := readSigned_eq_some_iff.mp h
          refine ⟨?_, ?_⟩
          · rcases hSign with rfl | rfl <;> rfl
          · rintro _ ⟨⟩
            exact ⟨hHours, hMinutes⟩
        · rw [not_or] at hSigned
          simp [readOffset, hSigned.1, hSigned.2] at h
  · rcases offset with _ | _ | ⟨negative, hours, minutes⟩
    · rintro ⟨rfl, -⟩
      rfl
    · rintro ⟨rfl, -⟩
      rfl
    · rintro ⟨rfl, hFits⟩
      obtain ⟨hHours, hMinutes⟩ := hFits _ rfl
      have hRead : readSigned negative (padded 2 hours ++ unit ':' :: padded 2 minutes) =
          some (some (.signed negative hours minutes)) :=
        readSigned_eq_some_iff.mpr ⟨hours, minutes, hHours, hMinutes, rfl, rfl⟩
      cases negative with
      | false => exact (readOffset_signed (.inl rfl)).trans hRead
      | true => exact (readOffset_signed (.inr rfl)).trans hRead

theorem endsFraction_offset (offset : Option Offset) :
    EndsFraction (offset.elim [] Offset.written) := by
  rintro u hu
  rcases offset with _ | _ | ⟨negative, hours, minutes⟩
  · cases hu
  · obtain rfl : unit 'Z' = u := by simpa [Offset.written] using hu
    exact ⟨by decide, by decide⟩
  · obtain rfl : unit (if negative then '-' else '+') = u := by simpa [Offset.written] using hu
    cases negative <;> exact ⟨by decide, by decide⟩

theorem read_eq_some_iff {t : Text} {s : Stamp} :
    read t = some s ↔ ∃ mark, IsMark mark ∧ t = s.written mark ∧ s.Fits := by
  simp only [read, Option.bind_eq_bind, Option.bind_eq_some_iff, Prod.exists, digits_eq_some_iff,
    @skip_eq_some_iff '-' (by decide) (by decide), @skip_eq_some_iff 'T' (by decide) (by decide),
    @skip_eq_some_iff ':' (by decide) (by decide), readHoursMinutes_eq_some_iff,
    readOffset_eq_some_iff, Option.pure_def, Option.some.injEq]
  constructor
  · rintro ⟨year, _, ⟨hYear, rfl⟩, _, rfl, month, _, ⟨hMonth, rfl⟩, _, rfl, day, _, ⟨hDay, rfl⟩, _, rfl,
      hour, minute, _, ⟨hHour, hMinute, rfl⟩, _, rfl, second, _, ⟨hSecond, rfl⟩, fraction, _, hRead,
      offset, ⟨rfl, hOffset⟩, rfl⟩
    obtain ⟨mark, hMark, rfl, hFraction⟩ := readFraction_eq_some hRead
    refine ⟨mark, hMark, ?_, hYear, hMonth, hDay, hHour, hMinute, hSecond, hFraction, hOffset⟩
    simp only [Stamp.written, List.append_assoc, List.cons_append]
  · rintro ⟨mark, hMark, rfl, hFits⟩
    have hFraction := readFraction_written hMark hFits.fraction (endsFraction_offset s.offset)
    simp only [Stamp.written, List.append_assoc, List.cons_append]
    exact ⟨s.year, _, ⟨hFits.year, rfl⟩, _, rfl, s.month, _, ⟨hFits.month, rfl⟩, _, rfl, s.day, _,
      ⟨hFits.day, rfl⟩, _, rfl, s.hour, s.minute, _, ⟨hFits.hour, hFits.minute, rfl⟩, _, rfl, s.second, _,
      ⟨hFits.second, rfl⟩, s.fraction, _, hFraction, s.offset, ⟨rfl, hFits.offset⟩, rfl⟩

end LogTriage.Timestamp
