import LogTriage.Proofs.Analysis.GroupBy

/-! # The limit on timestamps

The limit only prunes. A run with a smaller limit gives what a run with a larger one gives, with every list
of timestamps pruned once more.
-/

namespace LogTriage

set_option autoImplicit false

/-- The event with its list of timestamps bounded. One that was not grouped has no list. -/
def Event.pruneTo (keep : Number) (e : Event) : Except Timestamp.BadLimit Event :=
  match e.times with
  | .ofGroup ts => (Timestamp.pruneTo keep ts).map fun ts => { e with times := .ofGroup ts }
  | .ofMatch _ => .ok e

namespace Timestamp

theorem pruneTo_finite {n : Nat} (hn : 1 ≤ n) (ts : List Text) :
    pruneTo (.finite n) ts = .ok (prune n ts) := by
  have hPositive : (Number.finite n).positive? = some n :=
    Number.positive?_eq_some_iff.mpr ⟨rfl, hn⟩
  rw [pruneTo, hPositive]

end Timestamp

namespace Analysis

variable {n m : Nat} {stamps : Pattern} {content source : Text} {rules : List Rule}

theorem pruneTo_event (hn : 1 ≤ n) (h : n ≤ m) (g : Group) :
    (g.event (Timestamp.prune m)).pruneTo (.finite n) = .ok (g.event (Timestamp.prune n)) := by
  have hPrune := Timestamp.pruneTo_finite hn (Timestamp.prune m g.timestamps)
  rw [Timestamp.prune_prune h] at hPrune
  simp only [Event.pruneTo, Group.event, hPrune]
  rfl

theorem mapM_pruneTo_within (hn : 1 ≤ n) (h : n ≤ m) (interval : Rat) (group : Bool) :
    (within ⟨m, interval⟩ group stamps content source rules).events.mapM (·.pruneTo (.finite n)) =
      .ok (within ⟨n, interval⟩ group stamps content source rules).events := by
  cases group with
  | true =>
    rw [events_within_grouped, events_within_grouped, groupedEvents, groupedEvents, List.mapM_map]
    simp only [Function.comp_def, pruneTo_event hn h]
    exact List.mapM_pure
  | false =>
    rw [events_within_ungrouped, events_within_ungrouped, ungroupedEvents, List.mapM_map]
    exact List.mapM_pure

theorem log_within_keep (keep other : Nat) (interval : Rat) (group : Bool) :
    (within ⟨keep, interval⟩ group stamps content source rules).log =
      (within ⟨other, interval⟩ group stamps content source rules).log := by
  cases group <;> simp [within, groupedEvents]

/-- A grouped event shows what the limit leaves of the timestamps that its group has recorded. -/
theorem times_of_mem_within_grouped {limits : Limits} {e : Event}
    (h : e ∈ (within limits true stamps content source rules).events) :
    e.times = .ofGroup (Timestamp.prune limits.keep (Grouping.recorded e.key (Grouping.recordAll
      (.finite limits.interval) source [] (Occurrence.all stamps content rules)).1)) := by
  rw [events_within_grouped] at h
  obtain ⟨g, hg, rfl⟩ := List.mem_map.mp h
  have hRecorded : Grouping.recorded g.key _ = g.timestamps :=
    Grouping.recorded_of_mem (Grouping.keys_ofCalls_nodup _ _) hg
  rw [recordAll_eq_groupsOf]
  exact congrArg (Times.ofGroup <| Timestamp.prune limits.keep ·) hRecorded.symm

/-- A run with a smaller limit on timestamps gives the events of one with a larger limit, their lists pruned
to the smaller one. Each list has both ends of the timestamps recorded, or all where there is room. -/
theorem run_prune (content source : Text) (rules : List Rule) (stamps : Pattern) (group : Bool)
    (n m : Nat) (interval : Rat) (hn : 1 ≤ n) (h : n ≤ m) (hInterval : 0 ≤ interval) :
    ∃ narrow wide : Result,
      run content source rules ⟨group, .finite n, .finite interval, stamps⟩ = .ok narrow ∧
      run content source rules ⟨group, .finite m, .finite interval, stamps⟩ = .ok wide ∧
      wide.events.mapM (·.pruneTo (.finite n)) = .ok narrow.events ∧
      wide.log = narrow.log ∧
      ∀ e ∈ narrow.events,
        (group = false ∧ ∃ t, e.times = .ofMatch t) ∨
        (group = true ∧ ∃ ts, e.times = .ofGroup ts ∧
          Timestamp.KeepsEnds n (Grouping.recorded e.key (Grouping.recordAll (.finite interval) source []
            (Occurrence.all stamps content rules)).1) ts) := by
  refine ⟨_, _, run_eq_within hn hInterval group stamps content source rules,
    run_eq_within (hn.trans h) hInterval group stamps content source rules,
    mapM_pruneTo_within hn h interval group, log_within_keep m n interval group, ?_⟩
  intro e he
  cases group with
  | true => exact .inr ⟨rfl, _, times_of_mem_within_grouped he, Timestamp.keepsEnds_prune hn _⟩
  | false =>
    rw [events_within_ungrouped] at he
    obtain ⟨o, -, rfl⟩ := List.mem_map.mp he
    exact .inl ⟨rfl, o.timestamp, rfl⟩

def killedOften : List Text :=
  ["2024-10-07T10:01:00,0-04:00", "2024-10-07T10:03:00,0-04:00", "2024-10-07T10:05:00,0-04:00",
    "2024-10-07T10:07:00,0-04:00", "2024-10-07T10:09:00,0-04:00"].map Text.ofString

def killedOftenLog : Text :=
  killedOften.flatMap fun t => t ++ Text.ofString " Out of memory\n"

/-- Of five timestamps a limit of two keeps four, and of these a limit of one keeps the first and the last. -/
theorem run_prune_killedOften :
    1 ≤ 1 ∧ 1 ≤ 2 ∧ (0 : Rat) ≤ 60 ∧ ∃ narrow wide : Result,
      run killedOftenLog (Text.ofString "dmesg") [Rule.outOfMemory]
        ⟨true, .finite (1 : Nat), .finite 60, Timestamp.usualPattern⟩ = .ok narrow ∧
      run killedOftenLog (Text.ofString "dmesg") [Rule.outOfMemory]
        ⟨true, .finite (2 : Nat), .finite 60, Timestamp.usualPattern⟩ = .ok wide ∧
      wide.events.map (·.times) = [.ofGroup (killedOften.eraseIdx 2)] ∧
      wide.events.mapM (·.pruneTo (.finite (1 : Nat))) = .ok narrow.events := by
  obtain ⟨narrow, wide, hNarrow, hWide, hPrune, -⟩ := run_prune killedOftenLog (Text.ofString "dmesg")
    [Rule.outOfMemory] Timestamp.usualPattern true 1 2 60 (by decide) (by decide) (by decide)
  refine ⟨by decide, by decide, by decide, narrow, wide, hNarrow, hWide, ?_, hPrune⟩
  obtain rfl := Except.ok.inj hWide
  decide +kernel

end Analysis
end LogTriage
