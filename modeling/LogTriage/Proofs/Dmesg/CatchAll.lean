import LogTriage.Proofs.Rule.UsualStamp
import Mathlib.Data.List.Infix

/-! # What the catch-all reports

A line of error level is reported once, with its message, and a timestamp before the message is not part of
it. A line that has a timestamp and no message is not reported. Messages that begin with a date of their own
are left out here.
-/

namespace LogTriage.ErrorLine

set_option autoImplicit false

open Pattern
open Text (unit isDigit)

/-- A line in its parts; after a timestamp there are blanks of its own. -/
structure Parts where
  header : Header
  lead : Text
  stamp : Option (Text × Text)
  message : Text
  tail : Text

def Parts.text (p : Parts) : Text :=
  p.header.text ++ (p.lead ++ (p.stamp.elim [] (fun entry => entry.1 ++ entry.2) ++ (p.message ++ p.tail)))

structure Parts.WellFormed (stamps : Text → Prop) (p : Parts) : Prop where
  header : p.header.IsError
  lead : Gaps p.lead
  stamp : ∀ entry ∈ p.stamp, stamps entry.1 ∧ Gaps entry.2 ∧ entry.2 ≠ []
  message : IsMessage p.message
  tail : Gaps p.tail

variable {u : CodeUnit} {t : Text}

/-! ## The matches on a line -/

theorem unknownError_flags : Rule.unknownError.pattern.flags = lineFlags := by rw [unknownError_eq]

theorem unknownError_opening (c : Cursor) : opening Rule.unknownError.pattern c = ⟨c, [none]⟩ := by
  rw [unknownError_eq]
  rfl

/-- A match on a line begins where the line does. -/
theorem reading_of_mem_scan {m : Found} (hOneLine : OneLine t) (hm : m ∈ Rule.unknownError.pattern.scan t) :
    m.index = 0 ∧ ∃ header front body tail rest, Reading t header front body tail rest ∧
      m.groups = [some body] := by
  obtain ⟨hText, hMatch⟩ := mem_scan hm
  obtain ⟨s, hs, hFound⟩ := mem_outcomes_of_matchAt hMatch
  rw [unknownError_flags, unknownError_opening] at hs
  obtain ⟨_, _, _, ⟨header, far, -, hHeader, -⟩, -⟩ := mem_outcomes_unknownError_iff.mp hs
  have hBefore : m.first.before = [] := by
    refine eq_nil_of_atEdge (fun u hu => ?_) hOneLine (reads_header.mp hHeader).1
    rw [← hText, Cursor.text]
    exact List.mem_append_left _ (List.mem_reverse.mpr hu)
  have hFirst : m.first = .start t := by
    refine (Cursor.ext_iff_parts _ _).mpr ⟨hBefore, ?_⟩
    rw [← hText, Cursor.text, hBefore]
    rfl
  refine ⟨by rw [Found.index, hFirst]; rfl, ?_⟩
  rw [hFirst] at hs
  obtain ⟨header, front, body, tail, hReading, hGroups⟩ := exists_reading hs
  refine ⟨header, front, body, tail, _, hReading, ?_⟩
  rw [hFound]
  exact hGroups

theorem scan_eq_nil (hOneLine : OneLine t)
    (hNone : ∀ header front body tail rest, ¬ Reading t header front body tail rest) :
    Rule.unknownError.pattern.scan t = [] := by
  apply List.eq_nil_iff_forall_not_mem.mpr
  intro m hm
  obtain ⟨-, header, front, body, tail, rest, hReading, -⟩ := reading_of_mem_scan hOneLine hm
  exact hNone header front body tail rest hReading

theorem Reading.scan_ne_nil {header front body tail rest : Text}
    (h : Reading t header front body tail rest) : Rule.unknownError.pattern.scan t ≠ [] := by
  obtain ⟨s, hs⟩ := h.exists_outcome
  rw [← unknownError_opening, ← unknownError_flags] at hs
  exact Pattern.scan_ne_nil hs

theorem scan_groups {message header front tail rest : Text} (hOneLine : OneLine t)
    (hReading : Reading t header front message tail rest)
    (hUnique : ∀ header front body tail rest, Reading t header front body tail rest → body = message) :
    (Rule.unknownError.pattern.scan t).map (·.groups) = [[some message]] := by
  have hOrder := scan_pairwise Rule.unknownError.pattern t
  have hMem (m : Found) := @reading_of_mem_scan t m hOneLine
  cases hScan : Rule.unknownError.pattern.scan t with
  | nil => exact absurd hScan hReading.scan_ne_nil
  | cons m more =>
    rw [hScan] at hOrder hMem
    obtain ⟨hIndex, _, _, body, _, _, hBody, hGroups⟩ := hMem m List.mem_cons_self
    cases more with
    | nil => rw [List.map_singleton, hGroups, hUnique _ _ _ _ _ hBody]
    | cons n more =>
      have hLess := (List.rel_of_pairwise_cons hOrder List.mem_cons_self).1
      have hIndex' := (hMem n (by simp)).1
      omega

/-! ## Reported lines -/

/-- A message is read, and nothing else, where a front can be read up to it and every front leaves blanks
before it at most. -/
theorem scan_of_front {h : Header} {front message tail : Text} (hError : h.IsError)
    (hOneLine : OneLine (front ++ (message ++ tail))) (hFront : IsFront front (message ++ tail))
    (hMessage : IsMessage message) (hTail : Gaps tail)
    (hOthers : ∀ other after, IsFront other after → other ++ after = front ++ (message ++ tail) →
      ∃ space space', Gaps space ∧ Gaps space' ∧ space ++ after = space' ++ (message ++ tail)) :
    (Rule.unknownError.pattern.scan (h.text ++ (front ++ (message ++ tail)))).map (·.groups) =
      [[some message]] := by
  have hReading : Reading (h.text ++ (front ++ (message ++ tail))) h.text front message tail [] := by
    refine ⟨?_, ⟨h, hError, rfl⟩, ?_, hMessage, hTail, ?_⟩
    · rw [List.append_nil]
    · rwa [List.append_nil]
    · rintro _ ⟨⟩
  refine scan_groups (hError.oneLine.append hOneLine) hReading ?_
  intro header other body tail' rest hOther
  obtain ⟨hOtherFront, hText⟩ := hOther.after_header hError hOneLine
  obtain ⟨space, space', hSpace, hSpace', hAfter⟩ := hOthers other _ hOtherFront hText
  exact message_unique hAfter hSpace hSpace' hOther.body hMessage hOther.tail hTail

theorem scan_plain {h : Header} {lead message tail : Text} (hError : h.IsError) (hLead : Gaps lead)
    (hMessage : IsMessage message) (hTail : Gaps tail)
    (hNoDate : ∀ date, IsDate date → ¬ date <+: message) :
    (Rule.unknownError.pattern.scan (h.text ++ (lead ++ (message ++ tail)))).map (·.groups) =
      [[some message]] := by
  have hAhead := not_dateAhead hLead hMessage hTail hNoDate
  have hOneLine := hLead.oneLine.append (hMessage.oneLine.append hTail.oneLine)
  refine scan_of_front hError hOneLine ?_ hMessage hTail ?_
  · exact ⟨[], lead, rfl, .inl rfl, hAhead, hLead⟩
  · intro other after hOther hText
    rw [← hText] at hAhead
    exact ⟨other, lead, hOther.gaps hAhead, hLead, hText⟩

theorem scan_stamped {h : Header} {lead stamp space message tail : Text} (hError : h.IsError)
    (hLead : Gaps lead) (hStamp : IsStamp stamp) (hSpace : Gaps space) (hSome : space ≠ [])
    (hMessage : IsMessage message) (hTail : Gaps tail)
    (hNoDate : ∀ date, IsDate date → ¬ date <+: message) :
    (Rule.unknownError.pattern.scan (h.text ++ ((lead ++ (stamp ++ space)) ++ (message ++ tail)))).map
      (·.groups) = [[some message]] := by
  have hNext : ∀ u ∈ (space ++ (message ++ tail)).head?, IsGap u := by
    obtain ⟨u, more, rfl⟩ := List.exists_cons_of_ne_nil hSome
    rintro _ ⟨⟩
    exact hSpace u List.mem_cons_self
  have hFrontLine := hLead.oneLine.append (hStamp.oneLine.append hSpace.oneLine)
  have hOneLine := hFrontLine.append (hMessage.oneLine.append hTail.oneLine)
  refine scan_of_front hError hOneLine ?_ hMessage hTail ?_
  · have hEnds : StampEnds (space ++ (message ++ tail)) := fun u hu => .inl (hNext u hu)
    refine ⟨lead ++ stamp, space, ?_, .inr ⟨lead, stamp, rfl, hLead, hStamp, hEnds⟩,
      not_dateAhead hSpace hMessage hTail hNoDate, hSpace⟩
    rw [List.append_assoc]
  · intro other after hOther hText
    rw [← hText] at hOneLine
    simp only [List.append_assoc] at hText
    obtain ⟨space', hSpace', hAfter⟩ := hOther.after_stamp hText hLead hStamp hNext hOneLine
    exact ⟨space', space, hSpace', hSpace, hAfter⟩

theorem scan_stampOnly {h : Header} {lead stamp tail : Text} (hError : h.IsError) (hLead : Gaps lead)
    (hStamp : IsStamp stamp) (hTail : Gaps tail) :
    Rule.unknownError.pattern.scan (h.text ++ (lead ++ (stamp ++ tail))) = [] := by
  have hOneLine : OneLine (lead ++ (stamp ++ tail)) :=
    hLead.oneLine.append (hStamp.oneLine.append hTail.oneLine)
  apply scan_eq_nil (hError.oneLine.append hOneLine)
  intro header front body tail' rest hReading
  obtain ⟨hFront, hText⟩ := hReading.after_header hError hOneLine
  rw [← hText] at hOneLine
  obtain ⟨space, -, hAfter⟩ := hFront.after_stamp hText hLead hStamp
    (fun u hu => hTail u (List.mem_of_head? hu)) hOneLine
  -- The blanks at the end of the line would hold the message.
  obtain ⟨u, more, rfl⟩ := List.exists_cons_of_ne_nil hReading.body.nonempty
  have hGap : IsGap u := hTail u (by simp [← hAfter])
  exact (hReading.body.head u rfl).not_isGap hGap

/-! ## The rule as a whole -/

/-- A line with the timestamp of another format, which its message begins with. -/
def zuluLine : Parts where
  header := ⟨Text.ofString "  ", [], Text.ofString "err", Text.ofString "   "⟩
  lead := Text.ofString " "
  stamp := none
  message := Text.ofString "2024-10-07T10:17:15Z disk failed"
  tail := []

/-- Of this line only the last two words are reported. -/
theorem unknownError_zuluLine : ¬ ∀ p : Parts, p.WellFormed IsUsualStamp →
    (p.stamp = none → ∀ stamp rest, IsUsualStamp stamp → p.message = stamp ++ rest →
      ∀ u ∈ rest.head?, ¬ IsGap u) →
    (Rule.unknownError.pattern.scan p.text).map (·.groups) = [[some p.message]] := by
  intro hAll
  have hWellFormed : zuluLine.WellFormed IsUsualStamp := by
    refine ⟨?_, by decide, ?_, ?_, by decide⟩
    · constructor <;> decide
    · rintro _ ⟨⟩
    · constructor <;> decide
  have hNoStamp : ∀ stamp ∈ zuluLine.message.inits, ¬ IsUsualStamp stamp := by decide +kernel
  have hSettled : zuluLine.stamp = none → ∀ stamp rest, IsUsualStamp stamp →
      zuluLine.message = stamp ++ rest → ∀ u ∈ rest.head?, ¬ IsGap u := by
    intro _ stamp rest hStamp hText
    have hMem : stamp ∈ zuluLine.message.inits :=
      (List.mem_inits _ _).mpr (hText ▸ List.prefix_append stamp rest)
    exact absurd hStamp (hNoStamp stamp hMem)
  exact absurd (hAll zuluLine hWellFormed hSettled) (by decide +kernel)

theorem unknownError_reports :
    (∀ p : Parts, p.WellFormed IsStamp → (∀ date, IsDate date → ¬ date <+: p.message) →
      (Rule.unknownError.pattern.scan p.text).map (·.groups) = [[some p.message]]) ∧
    (∀ (header : Header) (lead stamp tail : Text), header.IsError → Gaps lead → IsStamp stamp → Gaps tail →
      Rule.unknownError.pattern.scan (header.text ++ (lead ++ (stamp ++ tail))) = []) ∧
    ∀ stamp, IsUsualStamp stamp → IsStamp stamp := by
  refine ⟨?_, fun _ _ _ _ => scan_stampOnly, fun _ => IsUsualStamp.isStamp⟩
  rintro ⟨header, lead, stamp, message, tail⟩ ⟨hError, hLead, hStamp, hMessage, hTail⟩ hNoDate
  cases stamp with
  | none => exact scan_plain hError hLead hMessage hTail hNoDate
  | some entry =>
    obtain ⟨hIsStamp, hSpace, hSome⟩ := hStamp entry rfl
    have hScan := scan_stamped hError hLead hIsStamp hSpace hSome hMessage hTail hNoDate
    simp only [List.append_assoc] at hScan
    simpa only [Parts.text, Option.elim_some, List.append_assoc] using hScan

theorem IsDate.not_prefix {date message : Text} (h : IsDate date)
    (hHead : ∀ u ∈ message.head?, isDigit u = false) : ¬ date <+: message := by
  obtain ⟨year, month, day, rfl, ⟨hSome, hDigits⟩, -⟩ := h
  obtain ⟨u, more, rfl⟩ := List.exists_cons_of_ne_nil hSome
  rintro ⟨rest, rfl⟩
  have hNot := hHead u rfl
  rw [hDigits u List.mem_cons_self] at hNot
  exact Bool.noConfusion hNot

/-- A line with every part. -/
def thermalLine : Parts where
  header := ⟨Text.ofString "  ", [], Text.ofString "crit", Text.ofString "  "⟩
  lead := Text.ofString " "
  stamp := some (Text.ofString "2024-10-07T10:17:15,145363-04:00", Text.ofString " ")
  message := Text.ofString "thermal zone tripped"
  tail := Text.ofString "  "

theorem unknownError_reports_thermalLine :
    (Rule.unknownError.pattern.scan thermalLine.text).map (·.groups) = [[some thermalLine.message]] ∧
    Rule.unknownError.pattern.scan (thermalLine.header.text ++ (Text.ofString " " ++
      (Text.ofString "2024-10-07T10:17:15,145363-04:00" ++ Text.ofString "  "))) = [] := by
  have hHeader : thermalLine.header.IsError := by constructor <;> decide
  have hMessage : IsMessage thermalLine.message := by constructor <;> decide
  have hStamp : IsStamp (Text.ofString "2024-10-07T10:17:15,145363-04:00") :=
    unknownError_reports.2.2 _ (by decide +kernel)
  constructor
  · apply unknownError_reports.1 thermalLine
    · refine ⟨hHeader, by decide, ?_, hMessage, by decide⟩
      rintro _ ⟨⟩
      exact ⟨hStamp, by decide, by decide⟩
    · intro date hDate
      exact hDate.not_prefix (by decide)
  · exact unknownError_reports.2.1 _ _ _ _ hHeader (by decide) hStamp (by decide)

end LogTriage.ErrorLine
