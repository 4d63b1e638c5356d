import LogTriage.Proofs.Analysis.GroupBy
import LogTriage.Proofs.Engine

/-! # Analyses by an engine

An analysis checks its settings first, and the bound on timestamps again for every group that has some.
The second check never fails after the first. So an analysis is stopped by its settings, or by a search that
the engine gives up; otherwise it comes to all its events.
-/

namespace LogTriage

set_option autoImplicit false

theorem Group.boundedEvent_eq {keep : Number} {n : Nat} (hKeep : keep.positive? = some n) (g : Group) :
    g.boundedEvent keep = .ok (g.event (Timestamp.prune n)) := by
  rw [boundedEvent]
  split_ifs with hNone
  · rw [event, event, hNone]
    simp [Timestamp.prune]
  · rw [Timestamp.pruneTo, hKeep]
    rfl

namespace Analysis

/-- The engine gives up a search that an analysis may make: for the pattern of a rule in the content, or
for the timestamp on one of its lines. -/
inductive GivesUp (e : Engine) (stamps : Pattern) (content : Text) (rules : List Rule)
    (failure : Failure) : Prop where
  | rule {rule : Rule} (hRule : rule ∈ rules) (h : e.GivesUp (rule.pattern.copy true) content failure)
  | stamp {i : Nat} (h : e.GivesUp (stamps.copy false) (Text.lineAt content i) failure)

theorem not_givesUp_tireless {stamps : Pattern} {content : Text} {rules : List Rule} {failure : Failure} :
    ¬GivesUp .tireless stamps content rules failure := by
  rintro (⟨-, h⟩ | h)
  · exact Engine.not_givesUp_tireless h
  · exact Engine.not_givesUp_tireless h

/-- What stops an analysis is a failure of the engine, for the cause named. -/
def Stop.OfEngine (cause : Failure → Prop) : Stop → Prop
  | .engine failure => cause failure
  | _ => False

theorem Stop.OfEngine.mono {cause more : Failure → Prop} (h : ∀ failure, cause failure → more failure)
    (stop : Stop) (hCause : OfEngine cause stop) : OfEngine more stop := by
  cases stop with
  | engine failure => exact h failure hCause
  | _ => exact hCause

theorem yields_stop {α : Type} {cause : Failure → Prop} {a : α} {x : Except Failure α}
    (h : Yields cause a x) : Yields (Stop.OfEngine cause) a (x.mapError Stop.engine) :=
  h.mapError fun _ hCause => hCause

theorem eq_ok_or_stopped {α : Type} {cause : Failure → Prop} {a : α} {x : Except Stop α}
    (h : Yields (Stop.OfEngine cause) a x) :
    x = .ok a ∨ ∃ failure, cause failure ∧ x = .error (.engine failure) := by
  rcases h.eq_ok_or with hValue | ⟨_ | _ | failure, hCause, hStop⟩
  · exact .inl hValue
  · cases hCause
  · cases hCause
  · exact .inr ⟨failure, hCause, hStop⟩

/-- What fails at all fails for the engine. -/
theorem exists_eq_stopped {α : Type} {cause : Failure → Prop} {a : α} {x : Except Stop α}
    (h : Yields (Stop.OfEngine cause) a x) (hFails : ∃ stop, x = .error stop) :
    ∃ failure, x = .error (.engine failure) := by
  rcases eq_ok_or_stopped h with rfl | ⟨failure, -, hStop⟩
  · obtain ⟨stop, hStop⟩ := hFails
    cases hStop
  · exact ⟨failure, hStop⟩

variable {e : Engine} {stamps : Pattern} {content source : Text} {rules : List Rule}
  {settings : Settings} {limits : Limits} {result : Result}

theorem yields_search (e : Engine) (stamps : Pattern) (content : Text) (rules : List Rule) :
    Yields (GivesUp e stamps content rules) (Occurrence.all stamps content rules)
      (Occurrence.search e stamps content rules) := by
  have hRule : ∀ rule ∈ rules, Yields (GivesUp e stamps content rules)
      (Occurrence.ofRule stamps content rule) (Occurrence.searchRule e stamps content rule) := by
    intro rule hRule
    refine Engine.yields_scan (fun _ h => .rule hRule h) fun m => ?_
    exact (Engine.yields_extract fun _ h => .stamp h).bind .pure
  exact (Yields.mapM hRule).bind .pure

theorem Limits.check_eq_ok_iff {keep interval : Number} :
    Limits.check keep interval = .ok limits ↔
      keep.positive? = some limits.keep ∧ interval = .finite limits.interval ∧
        0 ≤ limits.interval := by
  obtain ⟨k, i⟩ := limits
  rw [← Number.nonNegative?_eq_some_iff, Limits.check]
  cases keep.positive? <;> cases interval.nonNegative? <;> simp

theorem run_eq_ok_iff : run content source rules settings = .ok result ↔
    ∃ limits, Limits.check settings.keep settings.interval = .ok limits ∧
      within limits settings.group settings.stamps content source rules = result := by
  rw [run]
  cases Limits.check settings.keep settings.interval <;> simp [Except.map]

/-- Settings that are refused stop an analysis before any search. -/
theorem guarded_of_refused {faults : List Fault} (h : run content source rules settings = .error faults) :
    guarded e content source rules settings = .error (.settings faults) := by
  rw [run] at h
  rw [guarded]
  cases hCheck : Limits.check settings.keep settings.interval with
  | error others =>
    rw [hCheck] at h
    cases h
    rfl
  | ok limits =>
    rw [hCheck] at h
    cases h

/-- After the settings, only a search that is given up stops an analysis. -/
theorem yields_guarded (h : run content source rules settings = .ok result) :
    Yields (Stop.OfEngine (GivesUp e settings.stamps content rules)) result
      (guarded e content source rules settings) := by
  obtain ⟨limits, hCheck, rfl⟩ := run_eq_ok_iff.mp h
  obtain ⟨hKeep, hInterval, -⟩ := Limits.check_eq_ok_iff.mp hCheck
  -- The settings have passed, so every group does.
  have hBounded (groups : Grouping) :
      groups.mapM (Group.boundedEvent settings.keep) = .ok (groupedEvents limits groups) := by
    rw [funext (Group.boundedEvent_eq hKeep)]
    exact List.mapM_pure
  rw [guarded, hCheck]
  refine (yields_stop (yields_search e settings.stamps content rules)).bind ?_
  cases hGroup : settings.group with
  | false => exact .value
  | true =>
    simp only [hBounded, hInterval, if_true]
    exact .value

/-- A rule whose search is given up at once stops an analysis. -/
theorem exists_guarded_eq_error (h : run content source rules settings = .ok result) {rule : Rule}
    (hRule : rule ∈ rules) {failure : Failure}
    (hFailure : e.search (rule.pattern.copy true) content 0 = some failure) :
    ∃ failure, guarded e content source rules settings = .error (.engine failure) := by
  obtain ⟨limits, hCheck, -⟩ := run_eq_ok_iff.mp h
  obtain ⟨failure, hSearch⟩ := exists_mapM_eq_error hRule
    ⟨failure, show Occurrence.searchRule e settings.stamps content rule = .error failure from
      Engine.scan_of_failure hFailure⟩
  refine ⟨failure, ?_⟩
  rw [guarded, hCheck, Occurrence.search, hSearch]
  rfl

end Analysis
end LogTriage
