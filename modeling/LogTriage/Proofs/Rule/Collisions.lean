import LogTriage.Proofs.Analysis.FirstRule
import LogTriage.Proofs.Rule.Literal

/-! # Kernel rules that match one content

The first rule that matches a content classifies it. Among the base rules there are only two ways in
which a rule comes before a more severe one with the same content: a correctable fault before the
uncorrectable one of its count and block, and a rule without groups before the panic that quotes it.
-/

namespace LogTriage.Rule

set_option autoImplicit false

/-- The errors that are reported by their whole match. -/
def leading : List Rule := [outOfMemory, fenceTimeout, cfState, gpuInit, pageFault, acaBurst]

/-- A base rule of lower severity matches the same content before `r` does. -/
def Overruled (content : Text) (r : Rule) (c : MatchContent) : Prop :=
  (r = uncorrectable ∧ Matches content correctable c) ∨
    (r = kernelPanic ∧ ∃ q ∈ leading, Matches content q c)

/-! ## The table of base rules -/

/-- What a base rule is to those behind it. -/
theorem kernelBase_pairwise : kernelBase.Pairwise fun q r =>
    (q.severity.isAtLeast r.severity = true ∨ q.pattern.isApart r.pattern = true ∨
      (q = correctable ∧ r = uncorrectable) ∨ (q ∈ leading ∧ r = kernelPanic)) ∧
    (r = correctable → q.pattern.isApart r.pattern = true) ∧
    (r ∈ leading → q.severity = .error) := by
  simp only [kernelBase, leading, outOfMemory, fenceTimeout, cfState, gpuInit, pageFault, acaBurst,
    correctable, uncorrectable, kernelPanic, kernelBug, blockDevice, pcieAer, lnetInterfaces,
    lnetStartup, lustreNetwork]
  repeat rw [ofKernel_ofList]
  decide +kernel

theorem error_of_mem_leading : ∀ q ∈ leading, q ∈ kernelBase ∧ q.severity = .error := by
  intro q hq
  simp only [leading, List.mem_cons, List.not_mem_nil, or_false] at hq
  rcases hq with rfl | rfl | rfl | rfl | rfl | rfl <;> exact ⟨by simp [kernelBase], rfl⟩

theorem warning_le_of_mem_kernelBase : ∀ r ∈ kernelBase, r.severity.isAtLeast .warning = true := by
  decide +kernel

/-! ## The rule that classifies -/

variable {content : Text} {q r : Rule} {c : MatchContent}

theorem not_matches_of_isApart (hApart : q.pattern.isApart r.pattern = true)
    (hq : Matches content q c) : ¬Matches content r c := by
  rintro ⟨n, hn, hEq⟩
  obtain ⟨m, hm, rfl⟩ := hq
  obtain ⟨a, ha⟩ := Pattern.mem_scan hm
  obtain ⟨b, hb⟩ := Pattern.mem_scan hn
  exact Pattern.content_ne hApart ha hb hEq.symm

theorem first_cases (h : IsFirst kernelBase content q c) (hr : r ∈ kernelBase)
    (hMatch : Matches content r c) :
    q.severity.isAtLeast r.severity = true ∨ (q = correctable ∧ r = uncorrectable) ∨
      (q ∈ leading ∧ r = kernelPanic) := by
  rcases h.eq_or_rel kernelBase_pairwise hr hMatch with rfl | ⟨hAtLeast | hApart | hOther, -⟩
  · exact .inl (by simp [Priority.isAtLeast])
  · exact .inl hAtLeast
  · exact absurd hMatch (not_matches_of_isApart hApart h.matches_self)
  · exact .inr hOther

/-- The first rule is as severe as any that matches the content, unless it overrules it. -/
theorem isAtLeast_iff_not_overruled (h : IsFirst kernelBase content q c) (hr : r ∈ kernelBase)
    (hMatch : Matches content r c) :
    q.severity.isAtLeast r.severity = true ↔ ¬Overruled content r c := by
  constructor
  -- What overrules `r` stands before it in the list, and nothing before that has the content.
  · rintro hAtLeast (⟨rfl, hCorrectable⟩ | ⟨rfl, d, hd, hMatchD⟩)
    · rcases h.eq_or_rel kernelBase_pairwise (by simp [kernelBase]) hCorrectable with
        rfl | ⟨-, hApart, -⟩
      · exact absurd hAtLeast (by decide)
      · exact not_matches_of_isApart (hApart rfl) h.matches_self hCorrectable
    · obtain ⟨hMem, hError⟩ := error_of_mem_leading d hd
      rcases h.eq_or_rel kernelBase_pairwise hMem hMatchD with rfl | ⟨-, -, hBefore⟩
      · rw [hError] at hAtLeast
        exact absurd hAtLeast (by decide)
      · rw [hBefore hd] at hAtLeast
        exact absurd hAtLeast (by decide)
  · intro hNot
    rcases first_cases h hr hMatch with hAtLeast | ⟨rfl, rfl⟩ | ⟨hLeading, rfl⟩
    · exact hAtLeast
    · exact absurd (.inl ⟨rfl, h.matches_self⟩) hNot
    · exact absurd (.inr ⟨rfl, q, hLeading, h.matches_self⟩) hNot

end LogTriage.Rule
