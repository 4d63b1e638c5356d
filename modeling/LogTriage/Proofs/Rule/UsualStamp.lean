import LogTriage.Proofs.Pattern.Scan
import LogTriage.Proofs.Rule.LineParts
import LogTriage.Timestamp.Extraction

/-! # Timestamps as they are usually printed

The pattern that a run looks for where it is given no other. It reads a date, a time of day with a fraction
and a signed offset, each part of any number of digits, and its one group is the whole of what it reads.
-/

namespace LogTriage.ErrorLine

set_option autoImplicit false

open Pattern
open Text (unit isDigit)

variable {t : Text}

/-- The usual pattern matches the text from end to end. -/
def IsUsualStamp (t : Text) : Prop := ∃ m ∈ matchAt Timestamp.usualPattern (.start t), m.text = t

instance (t : Text) : Decidable (IsUsualStamp t) :=
  match h : matchAt Timestamp.usualPattern (.start t) with
  | none => isFalse (by simp [IsUsualStamp, h])
  | some m => decidable_of_iff (m.text = t) (by simp [IsUsualStamp, h])

def usualPieces : List Tree :=
  datePieces 1 ++ (digits 1 1 none :: (Tree.word (Text.ofString ":") ++ (digits 1 1 none ::
    (Tree.word (Text.ofString ":") ++ (digits 1 1 none :: (Tree.word (Text.ofString ",") ++
      (digits 1 1 none :: .char (.oneOf false [only '+', only '-']) :: digits 1 1 none ::
        (Tree.word (Text.ofString ":") ++ [digits 1 1 none]))))))))

theorem usualPattern_tree : Timestamp.usualPattern.tree = .group 0 (.ofPieces usualPieces) := by
  decide +kernel

theorem usualPattern_flags : Timestamp.usualPattern.flags = {} := by decide +kernel

theorem usualPattern_opening (c : Cursor) : opening Timestamp.usualPattern c = ⟨c, [none]⟩ := by
  have hCount : Timestamp.usualPattern.groupCount = 1 := by decide +kernel
  rw [opening, hCount]
  rfl

/-! ## The parts of one -/

structure UsualParts where
  date : Text
  hour : Text
  minute : Text
  second : Text
  fraction : Text
  sign : CodeUnit
  hours : Text
  minutes : Text

namespace UsualParts

def clock (p : UsualParts) : Text :=
  p.hour ++ (Text.ofString ":" ++ (p.minute ++ (Text.ofString ":" ++ (p.second ++
    (Text.ofString "," ++ p.fraction)))))

def zone (p : UsualParts) : Text := p.sign :: (p.hours ++ (Text.ofString ":" ++ p.minutes))

def text (p : UsualParts) : Text := p.date ++ (p.clock ++ p.zone)

structure WellFormed (p : UsualParts) : Prop where
  date : IsDate p.date
  hour : IsDigits p.hour
  minute : IsDigits p.minute
  second : IsDigits p.second
  fraction : IsDigits p.fraction
  sign : p.sign = unit '+' ∨ p.sign = unit '-'
  hours : IsDigits p.hours
  minutes : IsDigits p.minutes

variable {p : UsualParts}

theorem WellFormed.isClock (h : p.WellFormed) : IsClock p.clock := by
  have hColon : ∀ u ∈ Text.ofString ":", u = unit ':' := by decide
  have hComma : ∀ u ∈ Text.ofString ",", u = unit ',' := by decide
  unfold clock
  refine ⟨List.append_ne_nil_of_left_ne_nil h.hour.1 _, ?_⟩
  simp only [List.forall_mem_append]
  exact ⟨fun u hu => .inl (h.hour.2 u hu), fun u hu => .inr (.inl (hColon u hu)),
    fun u hu => .inl (h.minute.2 u hu), fun u hu => .inr (.inl (hColon u hu)),
    fun u hu => .inl (h.second.2 u hu), fun u hu => .inr (.inr (.inr (hComma u hu))),
    fun u hu => .inl (h.fraction.2 u hu)⟩

theorem WellFormed.isZone (h : p.WellFormed) : IsZone p.zone :=
  .inr ⟨p.sign, p.hours, p.minutes, rfl, h.sign, h.hours, h.minutes⟩

theorem WellFormed.isStamp (h : p.WellFormed) : IsStamp p.text :=
  ⟨p.date, p.clock, p.zone, rfl, h.date, h.isClock, .inr h.isZone⟩

end UsualParts

theorem reads_usualPieces {before after : Text} :
    (Tree.ofPieces usualPieces).Reads {} before t after ↔ ∃ p : UsualParts, p.WellFormed ∧ p.text = t := by
  simp only [usualPieces, Tree.reads_ofPieces_append, Tree.reads_ofPieces_cons, Tree.ofPieces_singleton,
    Tree.reads_word (show ({} : Flags).ignoreCase = false from rfl), Reading.andThen, Tree.reads_char,
    @reads_date {} _ _ _ rfl, @reads_digits {} _ _ _ rfl, @accepts_sign_iff {} _ rfl,
    Pattern.Reading.andThen]
  constructor
  · rintro ⟨date, _, rfl, hDate, hour, _, rfl, hHour, _, _, rfl, rfl, minute, _, rfl, hMinute, _, _, rfl,
      rfl, second, _, rfl, hSecond, _, _, rfl, rfl, fraction, _, rfl, hFraction, _, _, rfl,
      ⟨sign, rfl, hSign⟩, hours, _, rfl, hHours, _, minutes, rfl, rfl, hMinutes⟩
    refine ⟨⟨date, hour, minute, second, fraction, sign, hours, minutes⟩,
      ⟨hDate, hHour, hMinute, hSecond, hFraction, hSign, hHours, hMinutes⟩, ?_⟩
    simp only [UsualParts.text, UsualParts.clock, UsualParts.zone, List.append_assoc,
      List.singleton_append]
  · rintro ⟨⟨date, hour, minute, second, fraction, sign, hours, minutes⟩,
      ⟨hDate, hHour, hMinute, hSecond, hFraction, hSign, hHours, hMinutes⟩, rfl⟩
    simp only [UsualParts.text, UsualParts.clock, UsualParts.zone, List.append_assoc]
    exact ⟨date, _, rfl, hDate, hour, _, rfl, hHour, _, _, rfl, rfl, minute, _, rfl, hMinute, _, _, rfl,
      rfl, second, _, rfl, hSecond, _, _, rfl, rfl, fraction, _, rfl, hFraction, [sign], _, rfl,
      ⟨sign, rfl, hSign⟩, hours, _, rfl, hHours, _, minutes, rfl, rfl, hMinutes⟩

/-- Wherever it stands, a match reads such parts and keeps the whole of them in its group. -/
theorem usualParts_of_matchAt {c : Cursor} {m : Found}
    (h : matchAt Timestamp.usualPattern c = some m) :
    m.groups = [some m.text] ∧ ∃ p : UsualParts, p.WellFormed ∧ p.text = m.text := by
  obtain ⟨s, hs, rfl⟩ := mem_outcomes_of_matchAt h
  rw [usualPattern_flags, usualPattern_tree, usualPattern_opening, Matcher.outcomes] at hs
  obtain ⟨s, hBody, rfl⟩ := List.mem_map.mp hs
  obtain ⟨w, rest, hAfter, hReads, rfl⟩ := (Matcher.mem_outcomes_iff rfl rfl _ _).mp hBody
  have hText : c.between (State.past ⟨c, [none]⟩ w rest).cursor = w := State.between_past hAfter
  obtain ⟨p, hParts, rfl⟩ := reads_usualPieces.mp hReads
  exact ⟨rfl, p, hParts, hText.symm⟩

theorem IsUsualStamp.isStamp (h : IsUsualStamp t) : IsStamp t := by
  obtain ⟨m, hMatch, rfl⟩ := h
  obtain ⟨-, p, hParts, hText⟩ := usualParts_of_matchAt hMatch
  rw [← hText]
  exact hParts.isStamp

end LogTriage.ErrorLine
