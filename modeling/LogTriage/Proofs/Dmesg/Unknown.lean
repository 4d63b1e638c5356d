import LogTriage.Occurrence
import LogTriage.Proofs.Coverage
import LogTriage.Proofs.Rule.Literal

/-! # Unknown errors on the lines left over

A rule that stays on its line has in a text the occurrences of the lines, each with the timestamp of its
line. So the lines that are left over may be put together before they are scanned: the outcome is that
of the whole text, less what begins on the lines that were taken out.
-/

namespace LogTriage

set_option autoImplicit false

open Pattern

variable {rule : Rule} {lines : List Text}

theorem flatMap_filter {α β : Type} (l : List α) (keep : α → Bool) (g : α → List β) :
    (l.filter keep).flatMap g = l.flatMap fun a => if keep a then g a else [] := by
  induction l with
  | nil => rfl
  | cons a l ih =>
    rw [List.flatMap_cons, ← ih]
    cases hKeep : keep a with
    | true => simp [hKeep]
    | false => simp [hKeep]

namespace Occurrence

theorem ofFound_within (stamps : Pattern) (rule : Rule) (hFree : ∀ l ∈ lines, Text.newline ∉ l)
    {line : Text} {k : Nat} (hLine : lines[k]? = some line) {m : Found}
    (hm : m ∈ rule.pattern.scan line) :
    ofFound stamps (Text.ofLines lines) rule (m.within (.around lines k)) =
      ofFound stamps line rule m := by
  obtain ⟨hText, hMatch⟩ := mem_scan hm
  have hBetween : (m.within (.around lines k)).text = m.text :=
    Cursor.between_within _ (matchAt_onward hMatch).2
  have hNotMem : Text.newline ∉ m.first.text := hText ▸ hFree line (List.mem_of_getElem? hLine)
  have hHere := lineAt_self hNotMem
  have hThere := lineAt_within (.around lines k) hNotMem
  rw [text_within_around hLine hText, hText] at hThere
  rw [hText] at hHere
  have hLineAt : Text.lineAt (Text.ofLines lines) (m.within (.around lines k)).index =
      Text.lineAt line m.index := hThere.trans hHere.symm
  rw [ofFound, ofFound, hBetween, Timestamp.extract, Timestamp.extract, hLineAt]
  rfl

/-- The occurrences that begin on the lines that are kept are those of the lines kept. -/
theorem filter_ofRule (stamps : Pattern) (hStay : rule.pattern.staysOnLine = true)
    (hFree : ∀ l ∈ lines, Text.newline ∉ l) (hSome : lines ≠ []) (keep : Nat → Bool) :
    ((rule.pattern.scan (Text.ofLines lines)).filter fun m =>
        keep (Text.lineNumber (Text.ofLines lines) m.index)).map
          (ofFound stamps (Text.ofLines lines) rule) =
      ((lines.zipIdx.filter (keep ·.2)).map (·.1)).flatMap fun line => ofRule stamps line rule := by
  rw [scan_ofLines hStay hSome, List.filter_flatMap, List.map_flatMap, List.flatMap_map,
    flatMap_filter]
  refine List.flatMap_congr fun entry hEntry => ?_
  obtain ⟨line, k⟩ := entry
  have hLine : lines[k]? = some line := List.mem_zipIdx_iff_getElem?.mp hEntry
  have hNumber (m : Found) (hm : m ∈ rule.pattern.scan line) :
      Text.lineNumber (Text.ofLines lines) (m.within (.around lines k)).index = k :=
    lineNumber_within_around hFree hLine (mem_scan hm).1
  have hMap : ((rule.pattern.scan line).map (Found.within (.around lines k))).map
      (ofFound stamps (Text.ofLines lines) rule) = ofRule stamps line rule := by
    rw [List.map_map]
    exact List.map_congr_left fun m hm => ofFound_within stamps rule hFree hLine hm
  cases hKeep : keep k with
  | true =>
    rw [List.filter_eq_self.mpr, hMap, if_pos rfl]
    intro m hm
    obtain ⟨n, hn, rfl⟩ := List.mem_map.mp hm
    rw [hNumber n hn, hKeep]
  | false =>
    rw [List.filter_eq_nil_iff.mpr, if_neg Bool.false_ne_true]
    · rfl
    · intro m hm
      obtain ⟨n, hn, rfl⟩ := List.mem_map.mp hm
      rw [hNumber n hn, hKeep]
      exact Bool.false_ne_true

/-- The occurrences in a text are those of its lines. -/
theorem ofRule_ofLines (stamps : Pattern) (hStay : rule.pattern.staysOnLine = true)
    (hFree : ∀ l ∈ lines, Text.newline ∉ l) (hSome : lines ≠ []) :
    ofRule stamps (Text.ofLines lines) rule = lines.flatMap fun line => ofRule stamps line rule := by
  have hAll := filter_ofRule stamps hStay hFree hSome fun _ => true
  rw [List.filter_true, List.filter_true, List.zipIdx_map_fst] at hAll
  exact hAll

end Occurrence

namespace Dmesg

open Rule

theorem unknownError_staysOnLine : unknownError.pattern.staysOnLine = true := by
  rw [unknownError, Pattern.literal_ofList]
  decide +kernel

theorem unknownError_scan_nil : unknownError.pattern.scan [] = [] := by
  apply List.eq_nil_of_length_eq_zero
  rw [unknownError, Pattern.literal_ofList]
  decide +kernel

/-- The unknown errors of the lines left over are those of the whole text that begin on a line which no
match of the rules touches, with the same contents and timestamps and in the same order; and each of
them touches this line alone. -/
theorem unknown_of_uncovered (content : Text) (rules : List Rule) :
    Occurrence.ofRule Timestamp.usualPattern (Coverage.uncovered content rules) unknownError =
      ((unknownError.pattern.scan content).filter fun m =>
        !Coverage.isTouched content rules (Text.lineNumber content m.index)).map
          (Occurrence.ofFound Timestamp.usualPattern content unknownError) ∧
    ∀ m ∈ unknownError.pattern.scan content, ∀ line, Coverage.touches content m line = true →
      line = Text.lineNumber content m.index := by
  refine ⟨?_, fun m hm line hTouches =>
    Coverage.eq_of_touches unknownError_staysOnLine hm hTouches⟩
  have hFree : ∀ l ∈ content.lines, Text.newline ∉ l :=
    fun l hl => Text.newline_not_mem_of_mem_lines hl
  have hKept := Occurrence.filter_ofRule Timestamp.usualPattern unknownError_staysOnLine hFree
    (Text.lines_ne_nil content) fun line => !Coverage.isTouched content rules line
  rw [Text.ofLines_lines, ← Coverage.uncoveredLines_eq] at hKept
  rw [hKept, Coverage.uncovered]
  -- Without lines the text is empty, which is not the same as no text being scanned.
  by_cases hNone : Coverage.uncoveredLines content rules = []
  · rw [hNone, Occurrence.ofRule]
    exact congrArg (List.map _) unknownError_scan_nil
  · refine Occurrence.ofRule_ofLines _ unknownError_staysOnLine (fun l hl => ?_) hNone
    rw [Coverage.uncoveredLines_eq] at hl
    obtain ⟨entry, hEntry, rfl⟩ := List.mem_map.mp hl
    exact hFree _ (List.fst_mem_of_mem_zipIdx (List.mem_of_mem_filter hEntry))

/-- The middle line is known, so the other two are left over. -/
def oomBetween : Text :=
  Text.ofString "kern :err : a\nkern :err : Out of memory\nkern :err : b"

theorem unknown_of_uncovered_oomBetween :
    (Occurrence.ofRule Timestamp.usualPattern (Coverage.uncovered oomBetween [outOfMemory])
      unknownError).map (·.content) = [.single (Text.ofString "a"), .single (Text.ofString "b")] ∧
    ∃ m ∈ unknownError.pattern.scan oomBetween, Coverage.touches oomBetween m 2 = true ∧
      2 = Text.lineNumber oomBetween m.index := by
  obtain ⟨hSame, hOwn⟩ := unknown_of_uncovered oomBetween [outOfMemory]
  have hLast : ∃ m ∈ unknownError.pattern.scan oomBetween,
      Coverage.touches oomBetween m 2 = true := by decide +kernel
  obtain ⟨m, hm, hTouches⟩ := hLast
  refine ⟨?_, m, hm, hTouches, hOwn m hm 2 hTouches⟩
  rw [hSame]
  decide +kernel

end Dmesg
end LogTriage
