import LogTriage.Proofs.Rule.ErrorLine

/-! # One way to take a line apart

Header, blanks, timestamp and message each end where something else begins, so what the pattern reads on a
line is settled by the line. Where a timestamp is ahead it is read, and where no date is ahead there is none.
-/

namespace LogTriage.ErrorLine

set_option autoImplicit false

open Pattern
open Text (unit isDigit)

variable {u : CodeUnit} {t : Text}

/-! ## Units -/

theorem isSolid_of_isDigit (h : isDigit u = true) : IsSolid u := by
  rw [Text.isDigit_iff] at h
  simp only [IsSolid, Text.isBlank, Text.isLineEnd, Bool.or_eq_false_iff, Bool.and_eq_false_iff,
    decide_eq_false_iff_not, beq_eq_false_iff_ne]
  omega

theorem IsSolid.not_isGap (h : IsSolid u) : ¬ IsGap u := by
  rintro (rfl | rfl)
  · exact absurd h (by decide)
  · exact absurd h (by decide)

theorem IsGap.isLineEnd (h : IsGap u) : Text.isLineEnd u.toNat = false := by
  rcases h with rfl | rfl <;> rfl

theorem IsDigits.isSolid (h : IsDigits t) : ∀ u ∈ t, IsSolid u :=
  fun u hu => isSolid_of_isDigit (h.2 u hu)

theorem IsDate.isSolid (h : IsDate t) : ∀ u ∈ t, IsSolid u := by
  obtain ⟨year, month, day, rfl, hYear, -, hMonth, hDay⟩ := h
  have hDash : ∀ u ∈ Text.ofString "-", IsSolid u := by decide
  have hMark : ∀ u ∈ Text.ofString "T", IsSolid u := by decide
  simp only [List.forall_mem_append]
  exact ⟨hYear.isSolid, hDash, hMonth.isSolid, hDash, hDay.isSolid, hMark⟩

theorem IsClock.isSolid (h : IsClock t) : ∀ u ∈ t, IsSolid u := by
  intro u hu
  rcases h.2 u hu with hDigit | rfl | rfl | rfl
  · exact isSolid_of_isDigit hDigit
  · decide
  · decide
  · decide

theorem IsZone.isSolid (h : IsZone t) : ∀ u ∈ t, IsSolid u := by
  have hColon : ∀ u ∈ Text.ofString ":", IsSolid u := by decide
  rcases h with rfl | ⟨sign, hours, minutes, rfl, hSign, hHours, hMinutes⟩
  · decide
  · have hSolid : IsSolid sign := by
      rcases hSign with rfl | rfl <;> decide
    simp only [List.forall_mem_cons, List.forall_mem_append]
    exact ⟨hSolid, hHours.isSolid, hColon, hMinutes.isSolid⟩

theorem IsStamp.isSolid (h : IsStamp t) : ∀ u ∈ t, IsSolid u := by
  obtain ⟨date, time, place, rfl, hDate, hTime, hPlace⟩ := h
  simp only [List.forall_mem_append]
  refine ⟨hDate.isSolid, hTime.isSolid, ?_⟩
  rcases hPlace with rfl | hPlace
  · simp
  · exact hPlace.isSolid

theorem IsDate.ne_nil (h : IsDate t) : t ≠ [] := by
  obtain ⟨year, month, day, rfl, hYear, -⟩ := h
  exact List.append_ne_nil_of_left_ne_nil hYear.1 _

theorem IsStamp.ne_nil (h : IsStamp t) : t ≠ [] := by
  obtain ⟨date, time, place, rfl, hDate, -⟩ := h
  exact List.append_ne_nil_of_left_ne_nil hDate.ne_nil _

theorem Gaps.oneLine (h : Gaps t) : OneLine t := fun u hu => (h u hu).isLineEnd

theorem IsStamp.oneLine (h : IsStamp t) : OneLine t := fun u hu => (h.isSolid u hu).isLineEnd

theorem OneLine.append {t' : Text} (h : OneLine t) (h' : OneLine t') : OneLine (t ++ t') :=
  List.forall_mem_append.mpr ⟨h, h'⟩

/-! ## Where a part ends -/

/-- Blanks end where something to see begins. -/
theorem gaps_unique {xs ys xs' ys' : Text} (h : xs ++ ys = xs' ++ ys') (hGaps : Gaps xs)
    (hEnd : ∀ u ∈ ys.head?, IsSolid u) (hGaps' : Gaps xs') (hEnd' : ∀ u ∈ ys'.head?, IsSolid u) :
    xs = xs' ∧ ys = ys' :=
  run_unique h hGaps (fun u hu => (hEnd u hu).not_isGap) hGaps' fun u hu => (hEnd' u hu).not_isGap

theorem solid_head {solids : Text} (hSome : solids ≠ []) (hSolids : ∀ u ∈ solids, IsSolid u) (rest : Text) :
    ∀ u ∈ (solids ++ rest).head?, IsSolid u := by
  obtain ⟨u, more, rfl⟩ := List.exists_cons_of_ne_nil hSome
  rintro _ ⟨⟩
  exact hSolids u List.mem_cons_self

theorem colon_head (rest : Text) : ∀ u ∈ (Text.ofString ":" ++ rest).head?, IsSolid u := by
  rintro _ ⟨⟩
  decide

theorem level_head {level : Text} (h : level ∈ errorLevels) (rest : Text) :
    ∀ u ∈ (level ++ rest).head?, IsSolid u := by
  have hSome : ∀ l ∈ errorLevels, l ≠ [] := by decide
  have hSolid : ∀ l ∈ errorLevels, ∀ u ∈ l, IsSolid u := by decide
  exact solid_head (hSome level h) (hSolid level h) rest

/-- A level consists of small letters, and what follows is none. -/
theorem level_unique {level level' gap gap' rest rest' : Text} (hLevel : level ∈ errorLevels)
    (hLevel' : level' ∈ errorLevels) (hGap : Gaps gap) (hGap' : Gaps gap')
    (hText : level ++ (gap ++ (Text.ofString ":" ++ rest)) =
      level' ++ (gap' ++ (Text.ofString ":" ++ rest'))) :
    level = level' ∧ gap ++ (Text.ofString ":" ++ rest) = gap' ++ (Text.ofString ":" ++ rest') := by
  have hLetters : ∀ l ∈ errorLevels, ∀ u ∈ l, unit 'a' ≤ u := by decide
  have hAfter {gap : Text} (hGap : Gaps gap) (rest : Text) :
      ∀ u ∈ (gap ++ (Text.ofString ":" ++ rest)).head?, ¬ unit 'a' ≤ u := by
    cases gap with
    | nil =>
      rintro _ ⟨⟩
      decide
    | cons v gap =>
      rintro _ ⟨⟩
      rcases hGap v List.mem_cons_self with rfl | rfl <;> decide
  exact run_unique hText (hLetters level hLevel) (hAfter hGap rest) (hLetters level' hLevel')
    (hAfter hGap' rest')

theorem header_unique {h h' : Header} {rest rest' : Text} (hError : h.IsError) (hError' : h'.IsError)
    (hText : h.text ++ rest = h'.text ++ rest') : h.text = h'.text ∧ rest = rest' := by
  obtain ⟨afterName, beforeLevel, level, afterLevel⟩ := h
  obtain ⟨afterName', beforeLevel', level', afterLevel'⟩ := h'
  obtain ⟨hAfterName, hBeforeLevel, hLevel, hAfterLevel⟩ := hError
  obtain ⟨hAfterName', hBeforeLevel', hLevel', hAfterLevel'⟩ := hError'
  simp only [Header.text, List.append_assoc, List.append_cancel_left_eq] at hText ⊢
  obtain ⟨rfl, hFirstColon⟩ := gaps_unique hText hAfterName (colon_head _) hAfterName' (colon_head _)
  obtain ⟨rfl, hFromLevel⟩ := gaps_unique (List.append_cancel_left hFirstColon) hBeforeLevel
    (level_head hLevel _) hBeforeLevel' (level_head hLevel' _)
  obtain ⟨rfl, hFromGap⟩ := level_unique hLevel hLevel' hAfterLevel hAfterLevel' hFromLevel
  obtain ⟨rfl, hLastColon⟩ := gaps_unique hFromGap hAfterLevel (colon_head _) hAfterLevel' (colon_head _)
  exact ⟨rfl, List.append_cancel_left hLastColon⟩

theorem IsMessage.head_append (h : IsMessage t) (rest : Text) : ∀ u ∈ (t ++ rest).head?, IsSolid u := by
  obtain ⟨u, more, rfl⟩ := List.exists_cons_of_ne_nil h.nonempty
  exact h.head

theorem message_unique {space space' message message' tail tail' : Text}
    (hText : space ++ (message ++ tail) = space' ++ (message' ++ tail')) (hSpace : Gaps space)
    (hSpace' : Gaps space') (hMessage : IsMessage message) (hMessage' : IsMessage message')
    (hTail : Gaps tail) (hTail' : Gaps tail') : message = message' := by
  obtain ⟨-, hText⟩ :=
    gaps_unique hText hSpace (hMessage.head_append tail) hSpace' (hMessage'.head_append tail')
  exact (run_unique_last hText hTail (fun u hu => (hMessage.last u hu).not_isGap) hTail'
    fun u hu => (hMessage'.last u hu).not_isGap).1

/-- What has no blanks in it ends before the blanks do. -/
theorem prefix_of_append {solids rest message tail : Text} (hText : solids ++ rest = message ++ tail)
    (hSolids : ∀ u ∈ solids, IsSolid u) (hTail : Gaps tail) : solids <+: message := by
  rcases List.append_eq_append_iff.mp hText with ⟨more, rfl, -⟩ | ⟨more, rfl, rfl⟩
  · exact List.prefix_append solids more
  · cases more with
    | nil => simp
    | cons u more =>
      have hSolid := hSolids u (by simp)
      exact absurd (hTail u (by simp)) hSolid.not_isGap

theorem not_dateAhead {space message tail : Text} (hSpace : Gaps space) (hMessage : IsMessage message)
    (hTail : Gaps tail) (hNoDate : ∀ date, IsDate date → ¬ date <+: message) :
    ¬ DateAhead (space ++ (message ++ tail)) := by
  rintro ⟨lead, date, rest, hText, hLead, hDate⟩
  obtain ⟨-, hText⟩ := gaps_unique hText.symm hLead (solid_head hDate.ne_nil hDate.isSolid rest) hSpace
    (hMessage.head_append tail)
  exact hNoDate date hDate (prefix_of_append hText hDate.isSolid hTail)

/-! ## What follows the level -/

theorem eq_nil_of_atEdge {rest : Text} (hLine : ∀ u ∈ rest, u ∈ t) (hOneLine : OneLine t)
    (hEdge : AtEdge rest) : rest = [] := by
  cases rest with
  | nil => rfl
  | cons u rest =>
    have hEnd := hEdge u rfl
    rw [hOneLine u (hLine u List.mem_cons_self)] at hEnd
    exact Bool.noConfusion hEnd

theorem Header.IsError.oneLine {h : Header} (hError : h.IsError) : OneLine h.text := by
  have hName : OneLine (Text.ofString "kern") := by unfold OneLine; decide
  have hColon : OneLine (Text.ofString ":") := by unfold OneLine; decide
  have hLevels : ∀ level ∈ errorLevels, OneLine level := by unfold OneLine; decide
  unfold OneLine at *
  simp only [Header.text, List.forall_mem_append]
  exact ⟨hName, fun u hu => (hError.afterName u hu).isLineEnd, hColon,
    fun u hu => (hError.beforeLevel u hu).isLineEnd, hLevels _ hError.level,
    fun u hu => (hError.afterLevel u hu).isLineEnd, hColon⟩

/-- On a line a reading shares the header, and reads on to the end. -/
theorem Reading.after_header {h : Header} {after header front body tail rest : Text} (hError : h.IsError)
    (hOneLine : OneLine after) (hReading : Reading (h.text ++ after) header front body tail rest) :
    IsFront front (body ++ tail) ∧ front ++ (body ++ tail) = after := by
  obtain ⟨h', hError', rfl⟩ := hReading.header
  obtain ⟨-, hAfter⟩ := header_unique hError hError' hReading.text
  have hRest : rest = [] := by
    refine eq_nil_of_atEdge (fun u hu => ?_) hOneLine hReading.stop
    rw [hAfter]
    simp [hu]
  have hFront := hReading.front
  rw [hRest, List.append_nil] at hFront hAfter
  exact ⟨hFront, hAfter.symm⟩

theorem IsStamp.dateAhead {lead stamp : Text} (h : IsStamp stamp) (hLead : Gaps lead) (rest : Text) :
    DateAhead (lead ++ (stamp ++ rest)) := by
  obtain ⟨date, time, place, rfl, hDate, -⟩ := h
  refine ⟨lead, date, time ++ place ++ rest, ?_, hLead, hDate⟩
  simp only [List.append_assoc]

/-- Where no date is ahead there is no timestamp to read. -/
theorem IsFront.gaps {front after : Text} (h : IsFront front after)
    (hNoDate : ¬ DateAhead (front ++ after)) : Gaps front := by
  obtain ⟨_, space, rfl, rfl | ⟨lead, stamp, rfl, hLead, hStamp, -⟩, -, hSpace⟩ := h
  · exact hSpace
  · rw [List.append_assoc, List.append_assoc] at hNoDate
    exact absurd (hStamp.dateAhead hLead (space ++ after)) hNoDate

/-- A timestamp that is ahead is read. -/
theorem IsFront.after_stamp {front after lead stamp more : Text} (h : IsFront front after)
    (hText : front ++ after = lead ++ (stamp ++ more)) (hLead : Gaps lead) (hStamp : IsStamp stamp)
    (hMore : ∀ u ∈ more.head?, IsGap u) (hOneLine : OneLine (front ++ after)) :
    ∃ space, Gaps space ∧ space ++ after = more := by
  obtain ⟨_, space, rfl, hOpening, hNoDate, hSpace⟩ := h
  rcases hOpening with rfl | ⟨lead', stamp', rfl, hLead', hStamp', hEnds⟩
  · rw [List.nil_append] at hText
    rw [hText] at hNoDate
    exact absurd (hStamp.dateAhead hLead more) hNoDate
  · have hEnd : ∀ u ∈ (space ++ after).head?, IsGap u := by
      intro u hu
      refine (hEnds u hu).resolve_right fun hLineEnd => ?_
      have hOther := hOneLine u (by
        rw [List.append_assoc]
        exact List.mem_append_right _ (List.mem_of_head? hu))
      rw [hOther] at hLineEnd
      exact Bool.noConfusion hLineEnd
    simp only [List.append_assoc] at hText
    obtain ⟨-, hStamps⟩ := gaps_unique hText hLead' (solid_head hStamp'.ne_nil hStamp'.isSolid _) hLead
      (solid_head hStamp.ne_nil hStamp.isSolid _)
    obtain ⟨-, hAfter⟩ := run_unique hStamps (fun u hu => (hStamp'.isSolid u hu).not_isGap)
      (fun u hu => not_not.mpr (hEnd u hu)) (fun u hu => (hStamp.isSolid u hu).not_isGap)
      (fun u hu => not_not.mpr (hMore u hu))
    exact ⟨space, hSpace, hAfter⟩

end LogTriage.ErrorLine
