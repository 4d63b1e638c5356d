import LogTriage.Proofs.Rule.UsualStamp
import LogTriage.Proofs.Text.Trim
import LogTriage.Proofs.Timestamp.Instant

/-! # Which timestamps name an offset

Whether a text names an offset is settled by its last units alone. For a text that can be read this agrees
with what reading finds there: the time of day before an offset is longer than any offset, and none of its
units begins one. What the usual pattern finds, and can be read, has more signs than a date, so it names an
offset.
-/

namespace LogTriage.Timestamp

set_option autoImplicit false

open ErrorLine
open Text (unit isDigit padded)

variable {t : Text} {u mark : CodeUnit}

/-! ## The last units -/

def IsSign (u : CodeUnit) : Prop := u = unit '+' ∨ u = unit '-'

instance : DecidablePred IsSign := fun _ => inferInstanceAs (Decidable (_ ∨ _))

theorem isSign_iff : IsSign u ↔ Text.charOf u = '+' ∨ Text.charOf u = '-' := by
  rw [IsSign, Text.charOf_unit_iff (by decide) (by decide), Text.charOf_unit_iff (by decide) (by decide)]

/-- Two digits are the written form of the hours or minutes of an offset. -/
theorem exists_padded_eq {d₀ d₁ : CodeUnit} (h₀ : isDigit d₀ = true) (h₁ : isDigit d₁ = true) :
    ∃ n < 100, padded 2 n = [d₀, d₁] := by
  have hDigits : ∀ u ∈ [d₀, d₁], isDigit u = true := by simp [h₀, h₁]
  exact ⟨_, Text.decimalValue_lt hDigits, Text.padded_decimalValue hDigits⟩

theorem exists_offset_eq {sign h₀ h₁ m₀ m₁ : CodeUnit} (hSign : IsSign sign)
    (hh₀ : isDigit h₀ = true) (hh₁ : isDigit h₁ = true) (hm₀ : isDigit m₀ = true)
    (hm₁ : isDigit m₁ = true) :
    ∃ o : Offset, o.Fits ∧ o.written = [sign, h₀, h₁, unit ':', m₀, m₁] := by
  obtain ⟨hours, hHours, hHoursWritten⟩ := exists_padded_eq hh₀ hh₁
  obtain ⟨minutes, hMinutes, hMinutesWritten⟩ := exists_padded_eq hm₀ hm₁
  refine ⟨.signed (sign = unit '-') hours minutes, ⟨hHours, hMinutes⟩, ?_⟩
  rw [Offset.written, hHoursWritten, hMinutesWritten]
  rcases hSign with rfl | rfl <;> rfl

theorem charOf_zulu_iff : Text.charOf u = 'Z' ↔ u = unit 'Z' :=
  Text.charOf_unit_iff (by decide) (by decide)

theorem charOf_colon_iff : Text.charOf u = ':' ↔ u = unit ':' :=
  Text.charOf_unit_iff (by decide) (by decide)

theorem exists_offset_of_hasOffset (h : hasOffset t = true) :
    ∃ front, ∃ o : Offset, o.Fits ∧ Text.trim t = front ++ o.written := by
  have hZulu {u : CodeUnit} {rest : Text} (hUnits : (Text.trim t).reverse = u :: rest)
      (hLast : Text.charOf u = 'Z') : Text.trim t = rest.reverse ++ Offset.utc.written := by
    rw [← List.reverse_reverse (Text.trim t), hUnits, charOf_zulu_iff.mp hLast, List.reverse_cons]
    rfl
  rw [hasOffset] at h
  -- Six units are looked at where there are as many, and the last one alone where there are fewer.
  split at h
  · rename_i m₁ m₀ colon h₁ h₀ sign rest hUnits
    simp only [Bool.or_eq_true, Bool.and_eq_true, beq_iff_eq, charOf_colon_iff, ← isSign_iff] at h
    rcases h with hLast | ⟨⟨⟨⟨⟨hm₁, hm₀⟩, rfl⟩, hh₁⟩, hh₀⟩, hSign⟩
    · exact ⟨_, .utc, trivial, hZulu hUnits hLast⟩
    · obtain ⟨o, hFits, hWritten⟩ := exists_offset_eq hSign hh₀ hh₁ hm₀ hm₁
      refine ⟨rest.reverse, o, hFits, ?_⟩
      rw [← List.reverse_reverse (Text.trim t), hUnits, hWritten]
      simp
  · rename_i u rest _ hUnits
    exact ⟨_, .utc, trivial, hZulu hUnits (beq_iff_eq.mp h)⟩
  · exact Bool.noConfusion h

theorem hasOffset_of_ends {front : Text} {o : Offset} (hText : Text.trim t = front ++ o.written) :
    hasOffset t = true := by
  cases o with
  | utc =>
    have hUnits : (Text.trim t).reverse = unit 'Z' :: front.reverse := by
      rw [hText, List.reverse_append]
      rfl
    rw [hasOffset, hUnits]
    split
    · rename_i hParts
      rw [← (List.cons.inj hParts).1]
      rfl
    · rename_i hParts
      rw [← (List.cons.inj hParts).1]
      rfl
    · rename_i hParts
      cases hParts
  | signed negative hours minutes =>
    obtain ⟨h₀, h₁, hHours⟩ := List.length_eq_two.mp (Text.length_padded 2 hours)
    obtain ⟨m₀, m₁, hMinutes⟩ := List.length_eq_two.mp (Text.length_padded 2 minutes)
    have hh (u : CodeUnit) (hu : u ∈ [h₀, h₁]) : isDigit u = true :=
      Text.isDigit_of_mem_padded (hHours ▸ hu)
    have hm (u : CodeUnit) (hu : u ∈ [m₀, m₁]) : isDigit u = true :=
      Text.isDigit_of_mem_padded (hMinutes ▸ hu)
    have hSign : IsSign (unit (if negative then '-' else '+')) := by
      cases negative <;> decide
    rw [hasOffset, hText, Offset.written, hHours, hMinutes]
    simp [hh, hm, ← isSign_iff, hSign, charOf_colon_iff]

/-- A text names an offset exactly when an offset is what it ends in. -/
theorem hasOffset_iff : hasOffset t = true ↔ ∃ front, ∃ o : Offset, o.Fits ∧
    Text.trim t = front ++ o.written := by
  constructor
  · exact exists_offset_of_hasOffset
  · rintro ⟨front, o, -, hText⟩
    exact hasOffset_of_ends hText

/-! ## Signs -/

def signs (t : Text) : Nat := t.countP (IsSign ·)

theorem signs_append (t t' : Text) : signs (t ++ t') = signs t + signs t' := List.countP_append

theorem signs_eq_zero (h : ∀ u ∈ t, ¬ IsSign u) : signs t = 0 := by
  rw [signs, List.countP_eq_zero]
  simpa using h

theorem not_isSign_of_isDigit (h : isDigit u = true) : ¬ IsSign u := by
  rintro (rfl | rfl)
  · exact absurd h (by decide)
  · exact absurd h (by decide)

theorem signs_digits (h : IsDigits t) : signs t = 0 :=
  signs_eq_zero fun u hu => not_isSign_of_isDigit (h.2 u hu)

theorem signs_date (h : IsDate t) : signs t = 2 := by
  obtain ⟨year, month, day, rfl, hYear, -, hMonth, hDay⟩ := h
  have hDash : signs (Text.ofString "-") = 1 := by decide
  have hNoon : signs (Text.ofString "T") = 0 := by decide
  simp only [signs_append, signs_digits hYear, signs_digits hMonth, signs_digits hDay, hDash, hNoon]

/-- No unit of a time of day begins an offset. -/
theorem clock_unit {clock : Text} (h : IsClock clock) (hu : u ∈ clock) : ¬ IsSign u ∧ u ≠ unit 'Z' := by
  rcases h.2 u hu with hDigit | rfl | rfl | rfl
  · refine ⟨not_isSign_of_isDigit hDigit, ?_⟩
    rintro rfl
    exact absurd hDigit (by decide)
  · decide
  · decide
  · decide

theorem signs_clock (h : IsClock t) : signs t = 0 := signs_eq_zero fun _ hu => (clock_unit h hu).1

/-! ## The parts of a written stamp -/

theorem isDigits_padded (width n : Nat) : IsDigits (padded (width + 1) n) := by
  refine ⟨?_, fun u hu => Text.isDigit_of_mem_padded hu⟩
  exact List.ne_nil_of_length_eq_add_one (Text.length_padded (width + 1) n)

def Stamp.writtenDate (s : Stamp) : Text :=
  padded 4 s.year ++ (Text.ofString "-" ++ (padded 2 s.month ++ (Text.ofString "-" ++
    (padded 2 s.day ++ Text.ofString "T"))))

def Stamp.writtenClock (mark : CodeUnit) (s : Stamp) : Text :=
  padded 2 s.hour ++ (Text.ofString ":" ++ (padded 2 s.minute ++ (Text.ofString ":" ++
    (padded 2 s.second ++ s.fraction.elim [] (mark :: ·)))))

theorem Stamp.written_eq (mark : CodeUnit) (s : Stamp) : s.written mark =
    s.writtenDate ++ (s.writtenClock mark ++ s.offset.elim [] Offset.written) := by
  simp only [written, writtenDate, writtenClock, show Text.ofString "-" = [unit '-'] from rfl,
    show Text.ofString "T" = [unit 'T'] from rfl, show Text.ofString ":" = [unit ':'] from rfl,
    List.append_assoc, List.cons_append, List.nil_append]

theorem Stamp.isDate_writtenDate (s : Stamp) : IsDate s.writtenDate :=
  ⟨_, _, _, rfl, isDigits_padded 3 _, Text.length_padded 4 _, isDigits_padded 1 _, isDigits_padded 1 _⟩

theorem Stamp.isClock_writtenClock {s : Stamp} (hFits : s.Fits) (hMark : IsMark mark) :
    IsClock (s.writtenClock mark) := by
  have hColon : ∀ u ∈ Text.ofString ":", u = unit ':' := by decide
  have hDigits {n : Nat} (u : CodeUnit) (hu : u ∈ padded 2 n) : isDigit u = true :=
    Text.isDigit_of_mem_padded hu
  have hFraction : ∀ u ∈ s.fraction.elim [] (mark :: ·), isDigit u = true ∨ IsMark u := by
    cases hWritten : s.fraction with
    | none => simp
    | some ds =>
      rintro u hu
      rcases List.mem_cons.mp hu with rfl | hu
      · exact .inr hMark
      · exact .inl ((hFits.fraction ds hWritten).2 u hu)
  refine ⟨List.append_ne_nil_of_left_ne_nil (isDigits_padded 1 _).1 _, ?_⟩
  simp only [writtenClock, List.forall_mem_append]
  exact ⟨fun u hu => .inl (hDigits u hu), fun u hu => .inr (.inl (hColon u hu)),
    fun u hu => .inl (hDigits u hu), fun u hu => .inr (.inl (hColon u hu)),
    fun u hu => .inl (hDigits u hu), fun u hu => (hFraction u hu).imp_right .inr⟩

theorem Stamp.length_writtenClock (mark : CodeUnit) (s : Stamp) : 8 ≤ (s.writtenClock mark).length := by
  have hColon : (Text.ofString ":").length = 1 := rfl
  simp only [writtenClock, List.length_append, Text.length_padded, hColon]
  omega

theorem Offset.length_written (o : Offset) : o.written.length ≤ 6 := by
  cases o with
  | utc => decide
  | signed negative hours minutes => simp [written, Text.length_padded]

theorem Offset.written_head (o : Offset) : ∃ u ∈ o.written, IsSign u ∨ u = unit 'Z' := by
  rcases o with _ | ⟨negative, hours, minutes⟩
  · exact ⟨_, List.mem_cons_self, .inr rfl⟩
  · refine ⟨_, List.mem_cons_self, .inl ?_⟩
    cases negative <;> decide

/-- A time of day ends in no offset. -/
theorem Offset.not_ends {date clock front : Text} (o : Offset) (hClock : IsClock clock)
    (hLength : 8 ≤ clock.length) : date ++ clock ≠ front ++ o.written := by
  intro hText
  have hLess := o.length_written
  have hWithin : o.written <:+ clock := by
    apply List.suffix_of_suffix_length_le (hText ▸ List.suffix_append front o.written)
      (List.suffix_append date clock)
    omega
  obtain ⟨u, hu, hBegins⟩ := o.written_head
  obtain ⟨hNotSign, hNotZulu⟩ := clock_unit hClock (hWithin.subset hu)
  exact hBegins.elim hNotSign hNotZulu

theorem Stamp.Writes.hasOffset_iff {s : Stamp} (h : s.Writes t) :
    hasOffset t = true ↔ s.offset.isSome = true := by
  obtain ⟨hFits, mark, hMark, hText⟩ := h
  rw [Stamp.written_eq] at hText
  cases hOffset : s.offset with
  | none =>
    rw [hOffset, Option.elim_none, List.append_nil] at hText
    constructor
    · intro h
      obtain ⟨front, o, -, hEnds⟩ := exists_offset_of_hasOffset h
      exact absurd (hText.symm.trans hEnds)
        (o.not_ends (s.isClock_writtenClock hFits hMark) (s.length_writtenClock mark))
    · exact Bool.noConfusion
  | some o =>
    rw [hOffset, Option.elim_some, ← List.append_assoc] at hText
    exact iff_of_true (hasOffset_of_ends hText) rfl

/-! ## What the usual pattern finds -/

theorem signs_usualParts {p : UsualParts} (h : p.WellFormed) : signs p.text = 3 := by
  have hIsSign : IsSign p.sign := h.sign
  have hSign : signs [p.sign] = 1 := by
    rw [signs, List.countP_singleton, if_pos (decide_eq_true hIsSign)]
  have hColon : signs (Text.ofString ":") = 0 := by decide
  have hZone : signs p.zone = 1 := by
    rw [UsualParts.zone, ← List.singleton_append]
    simp only [signs_append, hSign, signs_digits h.hours, hColon, signs_digits h.minutes]
  rw [UsualParts.text, signs_append, signs_append, signs_date h.date, signs_clock h.isClock, hZone]

/-- Without an offset there are no signs but those of the date. -/
theorem signs_written {s : Stamp} (hFits : s.Fits) (hMark : IsMark mark) :
    signs (s.written mark) = 2 + signs (s.offset.elim [] Offset.written) := by
  rw [s.written_eq, signs_append, signs_append, signs_date s.isDate_writtenDate,
    signs_clock (s.isClock_writtenClock hFits hMark), Nat.zero_add]

theorem offset_isSome_of_usualParts {p : UsualParts} {s : Stamp} (h : p.WellFormed)
    (hWrites : s.Writes p.text) : s.offset.isSome = true := by
  obtain ⟨hFits, mark, hMark, hText⟩ := hWrites
  rw [Text.trim_eq_self h.isStamp.isSolid] at hText
  have hSigns := signs_written hFits hMark
  rw [← hText, signs_usualParts h] at hSigns
  cases hOffset : s.offset with
  | none =>
    rw [hOffset, Option.elim_none] at hSigns
    exact absurd hSigns (by decide)
  | some o => rfl

theorem usualParts_of_extract {content : Text} {p : Nat} (h : extract usualPattern content p = some t) :
    ∃ parts : UsualParts, parts.WellFormed ∧ parts.text = t := by
  rw [extract, onLine] at h
  split at h
  · cases h
  · rename_i hit hFirst
    obtain ⟨hGroups, parts, hParts, hText⟩ := usualParts_of_matchAt (Pattern.find_some hFirst).2
    rw [hGroups] at h
    obtain ⟨hFound, -⟩ := Option.filter_eq_some_iff.mp h
    exact ⟨parts, hParts, hText.trans (Option.some.inj hFound)⟩

theorem hasOffset_of_extract {content : Text} {p : Nat} {x : Rat}
    (h : extract usualPattern content p = some t) (hParse : parse t = some x) : hasOffset t = true := by
  obtain ⟨s, hWrites, -⟩ := parse_eq_some_iff.mp hParse
  obtain ⟨parts, hParts, rfl⟩ := usualParts_of_extract h
  exact hWrites.hasOffset_iff.mpr (offset_isSome_of_usualParts hParts hWrites)

end LogTriage.Timestamp
