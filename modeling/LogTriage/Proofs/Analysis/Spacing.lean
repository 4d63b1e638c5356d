import LogTriage.Proofs.Analysis.GroupBy
import LogTriage.Proofs.Timestamp.OffsetDetection

/-! # How far apart the listed timestamps are

Timestamps are compared only where both or neither name an offset. Those that the usual pattern finds all
name one if they can be read, so among the timestamps of one event no two that can be read lie closer
together than the interval.
-/

namespace LogTriage

set_option autoImplicit false

namespace Timestamp

/-- An interval beyond the finite range is longer than any distance. -/
theorem interval_le_distance {interval a b : Rat} {s t : Text} (hs : parse s = some a)
    (ht : parse t = some b) (hOffset : hasOffset s = hasOffset t) (h : ¬ Near (.finite interval) s t) :
    Binary64.nearest (interval * 1000) ≤ distance a b := by
  by_contra hLess
  have hBelow := not_le.mp hLess
  refine h ⟨a, b, hs, ht, hOffset, ?_⟩
  rw [distance_eq_abs] at hBelow
  rw [Number.scaleBy, Number.ofRat]
  have hPositive : 0 < Binary64.nearest (interval * 1000) := (abs_nonneg _).trans_lt hBelow
  have hOverflow : 0 ≤ Binary64.overflow := Nat.cast_nonneg _
  split_ifs with hHigh hLow
  · rfl
  · exact absurd hLow (not_le.mpr ((neg_nonpos.mpr hOverflow).trans_lt hPositive))
  · exact decide_eq_true hBelow

theorem Separated.spaced {interval : Rat} {ts : List Text} (h : Separated (.finite interval) ts)
    (hOffset : ∀ t ∈ ts, (parse t).isSome = true → hasOffset t = true) :
    ts.Pairwise fun s t => ∀ a b, parse s = some a → parse t = some b →
      Binary64.nearest (interval * 1000) ≤ distance a b := by
  refine h.imp_of_mem ?_
  intro s t hs ht hFar a b ha hb
  have hs' : hasOffset s = true := hOffset s hs (by rw [ha]; rfl)
  have ht' : hasOffset t = true := hOffset t ht (by rw [hb]; rfl)
  exact interval_le_distance ha hb (hs'.trans ht'.symm) hFar

end Timestamp

namespace Analysis

variable {stamps : Pattern} {content source t : Text} {rules : List Rule}

theorem listed_separated (limits : Limits) (interval : Number) (os : List Occurrence) :
    Timestamp.Separated interval (listed limits interval os) :=
  (Timestamp.select_separated interval _).sublist (Timestamp.prune_sublist _ _)

theorem exists_extract_of_mem_all {o : Occurrence} (h : o ∈ Occurrence.all stamps content rules)
    (ht : o.timestamp = some t) : ∃ p, Timestamp.extract stamps content p = some t := by
  obtain ⟨rule, -, hRule⟩ := List.mem_flatMap.mp h
  obtain ⟨m, -, rfl⟩ := List.mem_map.mp hRule
  exact ⟨m.index, ht⟩

/-- What a grouped run lists was found by its pattern, and is apart. -/
theorem times_of_mem_within {limits : Limits} {e : Event}
    (h : e ∈ (within limits true stamps content source rules).events) :
    ∃ ts, e.times = .ofGroup ts ∧ Timestamp.Separated (.finite limits.interval) ts ∧
      ∀ t ∈ ts, ∃ p, Timestamp.extract stamps content p = some t := by
  rw [events_within_grouped] at h
  obtain ⟨o, rest, hOs, hEq⟩ := eq_of_mem_groupedEvents h
  refine ⟨listed limits (.finite limits.interval) (o :: rest), by rw [hEq], listed_separated _ _ _, ?_⟩
  intro t ht
  obtain ⟨d, hd, hStamp⟩ := List.mem_filterMap.mp ((listed_sublist _ _ _).subset ht)
  rw [← hOs] at hd
  exact exists_extract_of_mem_all (List.mem_of_mem_filter hd) hStamp

/-- For a text that can be read, ending in an offset and having been read with one are the same. What the
usual pattern finds has one if it can be read, so in a run with that pattern any two such timestamps of an
event are an interval apart, as the distance and the interval are computed. -/
theorem run_spaced :
    (∀ t x, Timestamp.parse t = some x → ∃ s : Timestamp.Stamp, s.Writes t ∧ s.IsReal ∧
      (Timestamp.hasOffset t = true ↔ s.offset.isSome = true) ∧
      (Timestamp.hasOffset t = true ↔ ∃ front, ∃ o : Timestamp.Offset, o.Fits ∧
        Text.trim t = front ++ o.written)) ∧
    (∀ content p t x, Timestamp.extract Timestamp.usualPattern content p = some t →
      Timestamp.parse t = some x → Timestamp.hasOffset t = true) ∧
    ∀ (content source : Text) (rules : List Rule) (keep : Nat) (interval : Rat), 1 ≤ keep →
      0 ≤ interval → ∃ result : Result,
        run content source rules ⟨true, .finite keep, .finite interval, Timestamp.usualPattern⟩ =
          .ok result ∧
        ∀ e ∈ result.events, ∃ ts, e.times = .ofGroup ts ∧
          ts.Pairwise fun s t => ∀ a b, Timestamp.parse s = some a → Timestamp.parse t = some b →
            Binary64.nearest (interval * 1000) ≤ Timestamp.distance a b := by
  refine ⟨?_, fun _ _ _ _ => Timestamp.hasOffset_of_extract, ?_⟩
  · intro t x hParse
    obtain ⟨s, hWrites, hReal, -⟩ := Timestamp.parse_eq_some_iff.mp hParse
    exact ⟨s, hWrites, hReal, hWrites.hasOffset_iff, Timestamp.hasOffset_iff⟩
  · intro content source rules keep interval hKeep hInterval
    refine ⟨_, run_eq_within hKeep hInterval true Timestamp.usualPattern content source rules, ?_⟩
    intro e he
    obtain ⟨ts, hTimes, hSeparated, hFound⟩ := times_of_mem_within he
    refine ⟨ts, hTimes, hSeparated.spaced ?_⟩
    intro t ht hSome
    obtain ⟨x, hParse⟩ := Option.isSome_iff_exists.mp hSome
    obtain ⟨p, hExtract⟩ := hFound t ht
    exact Timestamp.hasOffset_of_extract hExtract hParse

def killedFirst : Text := Text.ofString "2024-10-07T10:17:15,145363-04:00"

def killedAgain : Text := Text.ofString "2024-10-07T10:19:15,145363-04:00"

def killedLog : Text :=
  killedFirst ++ Text.ofString " Out of memory: Killed process 7\n" ++
    (killedAgain ++ Text.ofString " Out of memory: Killed process 7")

/-- One message is seen twice, two minutes apart, and its event lists both timestamps. -/
theorem run_spaced_killedLog :
    Timestamp.extract Timestamp.usualPattern killedLog 33 = some killedFirst ∧
    Timestamp.hasOffset killedFirst = true ∧
    (∃ s : Timestamp.Stamp, s.Writes killedFirst ∧ s.offset.isSome = true) ∧
    1 ≤ 3 ∧ (0 : Rat) ≤ 60 ∧ ∃ result : Result,
      run killedLog (Text.ofString "dmesg") [Rule.outOfMemory]
        ⟨true, .finite (3 : Nat), .finite 60, Timestamp.usualPattern⟩ = .ok result ∧
      result.events.map (·.times) = [.ofGroup [killedFirst, killedAgain]] ∧
      ∀ a b, Timestamp.parse killedFirst = some a → Timestamp.parse killedAgain = some b →
        Binary64.nearest (60 * 1000) ≤ Timestamp.distance a b := by
  have hExtract : Timestamp.extract Timestamp.usualPattern killedLog 33 = some killedFirst := by
    decide +kernel
  obtain ⟨x, hParse⟩ : ∃ x, Timestamp.parse killedFirst = some x :=
    Option.isSome_iff_exists.mp (by decide +kernel)
  have hOffset := run_spaced.2.1 killedLog 33 killedFirst x hExtract hParse
  obtain ⟨s, hWrites, -, hPart, -⟩ := run_spaced.1 killedFirst x hParse
  obtain ⟨result, hRun, hSpaced⟩ :=
    run_spaced.2.2 killedLog (Text.ofString "dmesg") [Rule.outOfMemory] 3 60 (by decide) (by decide)
  have hTimes : (run killedLog (Text.ofString "dmesg") [Rule.outOfMemory]
      ⟨true, .finite (3 : Nat), .finite 60, Timestamp.usualPattern⟩).toOption.map
        (fun r => r.events.map (·.times)) = some [.ofGroup [killedFirst, killedAgain]] := by
    decide +kernel
  rw [hRun] at hTimes
  have hEvents : result.events.map (·.times) = [.ofGroup [killedFirst, killedAgain]] :=
    Option.some.inj hTimes
  refine ⟨hExtract, hOffset, ⟨s, hWrites, hPart.mp hOffset⟩, by decide, by decide, result, hRun,
    hEvents, ?_⟩
  obtain ⟨e, he, hListed⟩ : ∃ e ∈ result.events, e.times = .ofGroup [killedFirst, killedAgain] :=
    List.mem_map.mp (hEvents ▸ List.mem_singleton_self _)
  obtain ⟨ts, hTs, hPairs⟩ := hSpaced e he
  obtain rfl : [killedFirst, killedAgain] = ts := Times.ofGroup.inj (hListed.symm.trans hTs)
  exact List.rel_of_pairwise_cons hPairs List.mem_cons_self

end Analysis
end LogTriage
