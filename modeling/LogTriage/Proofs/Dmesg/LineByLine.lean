import LogTriage.Proofs.Analysis.Tally
import LogTriage.Proofs.Dmesg.Unknown
import Mathlib.Data.List.Perm.Basic

/-! # Base rules line by line

Of the base rules only the one for bursts reads from one line into the next. The others find in a log what
they find on its lines taken one by one, so in two logs that are joined they find what they find in each.
-/

namespace LogTriage

set_option autoImplicit false

open Pattern

/-! ## Two logs joined -/

namespace Occurrence

variable {rule : Rule} {rules : List Rule}

theorem ofRule_lines (stamps : Pattern) (hStay : rule.pattern.staysOnLine = true) (content : Text) :
    ofRule stamps content rule = content.lines.flatMap fun line => ofRule stamps line rule := by
  have hFree : ∀ l ∈ content.lines, Text.newline ∉ l := fun l hl => Text.newline_not_mem_of_mem_lines hl
  have hAll := ofRule_ofLines stamps hStay hFree (Text.lines_ne_nil content)
  rwa [Text.ofLines_lines] at hAll

theorem ofRule_joined (stamps : Pattern) (hStay : rule.pattern.staysOnLine = true) (a b : Text) :
    ofRule stamps (a ++ Text.newline :: b) rule = ofRule stamps a rule ++ ofRule stamps b rule := by
  rw [ofRule_lines stamps hStay, Text.lines_append_newline, List.flatMap_append,
    ← ofRule_lines stamps hStay, ← ofRule_lines stamps hStay]

/-- Rule by rule the occurrences of the second log follow those of the first. -/
theorem all_joined (stamps : Pattern) (hStay : ∀ r ∈ rules, r.pattern.staysOnLine = true) (a b : Text) :
    (all stamps (a ++ Text.newline :: b) rules).Perm (all stamps a rules ++ all stamps b rules) := by
  have hJoined : all stamps (a ++ Text.newline :: b) rules =
      rules.flatMap fun rule => ofRule stamps a rule ++ ofRule stamps b rule :=
    List.flatMap_congr fun r hr => ofRule_joined stamps (hStay r hr) a b
  rw [hJoined]
  exact (List.flatMap_append_perm rules _ _).symm

end Occurrence

/-! ## The base rules -/

namespace Rule

theorem staysOnLine_of_mem_kernelBase :
    ∀ r ∈ kernelBase, r ≠ acaBurst → r.pattern.staysOnLine = true := by
  simp only [kernelBase, outOfMemory, fenceTimeout, cfState, gpuInit, pageFault, acaBurst,
    correctable, uncorrectable, kernelPanic, kernelBug, blockDevice, pcieAer, lnetInterfaces,
    lnetStartup, lustreNetwork]
  repeat rw [ofKernel_ofList]
  decide +kernel

-- The one left out: a burst goes on into the next line.
example : (acaBurst.pattern.scan (Text.ofString
    "Accelerator Check Architecture events logged\naca entry[00].STATUS=0x98")).map
      (·.text.contains Text.newline) = [true] := by
  decide +kernel

end Rule

namespace Dmesg

open Analysis Rule

/-- A base rule other than the one for bursts finds in a log what it finds on its lines, each match moved
to where its line begins. So two logs that are joined have together the matches of each, key by key, and an
analysis counts them so. -/
theorem kernelBase_lineByLine :
    (∀ r ∈ kernelBase, r ≠ acaBurst → ∀ content : Text,
      (r.pattern.scan content).map Found.shown = content.lines.zipIdx.flatMap fun entry =>
        (r.pattern.scan entry.1).map fun m =>
          (Text.lineFirst content entry.2 + m.index, m.text, m.groups)) ∧
    ∀ rules : List Rule, (∀ r ∈ rules, r ∈ kernelBase ∧ r ≠ acaBurst) →
      ∀ (stamps : Pattern) (a b k : Text),
        (Occurrence.all stamps (a ++ Text.newline :: b) rules).countP (·.key = k) =
          (Occurrence.all stamps a rules).countP (·.key = k) +
            (Occurrence.all stamps b rules).countP (·.key = k) ∧
        ∀ (source : Text) (group : Bool) (keep : Nat) (interval : Rat), 1 ≤ keep → 0 ≤ interval →
          ∃ joined first second : Result,
            run (a ++ Text.newline :: b) source rules
              ⟨group, .finite keep, .finite interval, stamps⟩ = .ok joined ∧
            run a source rules ⟨group, .finite keep, .finite interval, stamps⟩ = .ok first ∧
            run b source rules ⟨group, .finite keep, .finite interval, stamps⟩ = .ok second ∧
            tally k joined.events = tally k first.events + tally k second.events := by
  constructor
  · intro r hr hOther content
    exact scan_lines (staysOnLine_of_mem_kernelBase r hr hOther) content
  · intro rules hRules stamps a b k
    have hStay : ∀ r ∈ rules, r.pattern.staysOnLine = true :=
      fun r hr => staysOnLine_of_mem_kernelBase r (hRules r hr).1 (hRules r hr).2
    have hCount : (Occurrence.all stamps (a ++ Text.newline :: b) rules).countP (·.key = k) =
        (Occurrence.all stamps a rules).countP (·.key = k) +
          (Occurrence.all stamps b rules).countP (·.key = k) := by
      rw [(Occurrence.all_joined stamps hStay a b).countP_eq, List.countP_append]
    refine ⟨hCount, ?_⟩
    intro source group keep interval hKeep hInterval
    have hRun (content : Text) := run_eq_within hKeep hInterval group stamps content source rules
    refine ⟨_, _, _, hRun _, hRun a, hRun b, ?_⟩
    simp only [tally_within ⟨keep, interval⟩ hKeep, hCount]

def killed : Text := Text.ofString "Out of memory: 7"

def killedTwice : Text := killed ++ Text.ofString "\nusb 1-1: new device\n" ++ killed

/-- The first log has the message on its first line and on its last, the second on its only one. -/
theorem kernelBase_lineByLine_killedTwice :
    outOfMemory ∈ kernelBase ∧ outOfMemory ≠ acaBurst ∧
    (outOfMemory.pattern.scan killedTwice).map Found.shown = [(0, killed, []), (37, killed, [])] ∧
    (Occurrence.all Timestamp.usualPattern (killedTwice ++ Text.newline :: killed) [outOfMemory]).countP
      (·.key = (MatchContent.single killed).key) = 2 + 1 ∧
    1 ≤ 3 ∧ (0 : Rat) ≤ 60 ∧ ∃ joined first second : Result,
      run (killedTwice ++ Text.newline :: killed) (Text.ofString "dmesg") [outOfMemory]
        ⟨true, .finite (3 : Nat), .finite 60, Timestamp.usualPattern⟩ = .ok joined ∧
      run killedTwice (Text.ofString "dmesg") [outOfMemory]
        ⟨true, .finite (3 : Nat), .finite 60, Timestamp.usualPattern⟩ = .ok first ∧
      run killed (Text.ofString "dmesg") [outOfMemory]
        ⟨true, .finite (3 : Nat), .finite 60, Timestamp.usualPattern⟩ = .ok second ∧
      tally (MatchContent.single killed).key joined.events =
        tally (MatchContent.single killed).key first.events +
          tally (MatchContent.single killed).key second.events := by
  have hMem : outOfMemory ∈ kernelBase := by simp [kernelBase]
  have hOther : outOfMemory ≠ acaBurst := by decide +kernel
  have hRules : ∀ r ∈ [outOfMemory], r ∈ kernelBase ∧ r ≠ acaBurst := by
    intro r hr
    rw [List.mem_singleton.mp hr]
    exact ⟨hMem, hOther⟩
  obtain ⟨hCount, hRuns⟩ := kernelBase_lineByLine.2 [outOfMemory] hRules Timestamp.usualPattern
    killedTwice killed (MatchContent.single killed).key
  refine ⟨hMem, hOther, ?_, ?_, by decide, by decide, hRuns _ true 3 60 (by decide) (by decide)⟩
  · rw [kernelBase_lineByLine.1 outOfMemory hMem hOther killedTwice]
    decide +kernel
  · rw [hCount]
    decide +kernel

end Dmesg
end LogTriage
