import LogTriage.Engine

/-! # Searches that may be given up

What is computed with an engine is what is computed without one, unless the engine gives up a search on the
way. So each of these computations yields a value, or fails for a cause that is named beside it.
-/

namespace LogTriage

set_option autoImplicit false

variable {ε δ α β : Type}

/-- The computation comes to the value, or it fails for a cause. -/
inductive Yields (cause : ε → Prop) (a : α) : Except ε α → Prop where
  | value : Yields cause a (.ok a)
  | failed {failure : ε} (h : cause failure) : Yields cause a (.error failure)

namespace Yields

variable {cause more : ε → Prop} {a : α} {b : β} {x : Except ε α}

theorem pure : Yields cause a (Pure.pure a : Except ε α) := .value

theorem mono (h : Yields cause a x) (hMore : ∀ failure, cause failure → more failure) :
    Yields more a x := by
  cases h with
  | value => exact .value
  | failed hCause => exact .failed (hMore _ hCause)

theorem bind {f : α → Except ε β} (h : Yields cause a x) (hRest : Yields cause b (f a)) :
    Yields cause b (x >>= f) := by
  cases h with
  | value => exact hRest
  | failed hCause => exact .failed hCause

/-- If a computation fails from its value on, it fails. -/
theorem exists_bind_eq_error {f : α → Except ε β} (h : Yields cause a x)
    (hRest : ∃ failure, f a = .error failure) : ∃ failure, (x >>= f) = .error failure := by
  cases h with
  | value => exact hRest
  | failed => exact ⟨_, rfl⟩

theorem mapError {f : ε → δ} {other : δ → Prop} (h : Yields cause a x)
    (hOther : ∀ failure, cause failure → other (f failure)) : Yields other a (x.mapError f) := by
  cases h with
  | value => exact .value
  | failed hCause => exact .failed (hOther _ hCause)

theorem mapM {f : α → Except ε β} {g : α → β} {items : List α}
    (h : ∀ item ∈ items, Yields cause (g item) (f item)) :
    Yields cause (items.map g) (items.mapM f) := by
  induction items with
  | nil => exact .pure
  | cons item rest ih =>
    rw [List.mapM_cons]
    refine (h item List.mem_cons_self).bind (.bind (ih ?_) .pure)
    exact fun other hOther => h other (List.mem_cons_of_mem _ hOther)

theorem eq_ok_or (h : Yields cause a x) : x = .ok a ∨ ∃ failure, cause failure ∧ x = .error failure := by
  cases h with
  | value => exact .inl rfl
  | failed hCause => exact .inr ⟨_, hCause, rfl⟩

end Yields

/-- One failure is enough. -/
theorem exists_mapM_eq_error {f : α → Except ε β} {items : List α} {item : α} (hItem : item ∈ items)
    (h : ∃ failure, f item = .error failure) : ∃ failure, items.mapM f = .error failure := by
  induction items with
  | nil => cases hItem
  | cons first rest ih =>
    rw [List.mapM_cons]
    cases hFirst : f first with
    | error failure => exact ⟨failure, rfl⟩
    | ok value =>
      rcases List.mem_cons.mp hItem with rfl | hRest
      · obtain ⟨failure, hFailure⟩ := h
        rw [hFirst] at hFailure
        cases hFailure
      · obtain ⟨failure, hFailure⟩ := ih hRest
        exact ⟨failure, by rw [hFailure]; rfl⟩

namespace Engine

open Pattern (Cursor Found)

/-- The engine ends some search for the pattern in the text with the failure. -/
def GivesUp (e : Engine) (p : Pattern) (t : Text) (failure : Failure) : Prop :=
  ∃ i, e.search p t i = some failure

theorem yields_unlessFailed {cause : Failure → Prop} {failure : Option Failure} {a : α}
    (h : ∀ f, failure = some f → cause f) : Yields cause a (unlessFailed failure fun _ => a) := by
  cases failure with
  | none => exact .value
  | some f => exact .failed (h f rfl)

variable {e : Engine} {p : Pattern} {t : Text} {cause : Failure → Prop}

theorem yields_find (hCause : ∀ failure, e.GivesUp (p.copy true) t failure → cause failure) (c : Cursor) :
    Yields cause (p.find c) (e.find p t c) :=
  yields_unlessFailed fun failure hFailure => hCause failure ⟨c.index, hFailure⟩

theorem yields_extract {stamps : Pattern} {content : Text} {i : Nat} (hCause : ∀ failure,
    e.GivesUp (stamps.copy false) (Text.lineAt content i) failure → cause failure) :
    Yields cause (Timestamp.extract stamps content i) (e.extract stamps content i) :=
  yields_unlessFailed fun failure hFailure => hCause failure ⟨0, hFailure⟩

theorem yields_visit {f : Found → Except Failure α} {g : Found → α}
    (hCause : ∀ failure, e.GivesUp (p.copy true) t failure → cause failure)
    (hMatch : ∀ m, Yields cause (g m) (f m)) (room : Text) (c : Cursor) :
    Yields cause ((Pattern.enumerate p.find p.stepOver room c).map g) (e.visit p t f room c) := by
  induction room generalizing c with
  | nil =>
    rw [visit, Pattern.enumerate]
    refine (yields_find hCause c).bind ?_
    cases p.find c with
    | none => exact .pure
    | some m => exact (hMatch m).bind .pure
  | cons u room ih =>
    rw [visit, Pattern.enumerate]
    refine (yields_find hCause c).bind ?_
    cases p.find c with
    | none => exact .pure
    | some m =>
      refine (hMatch m).bind ?_
      cases hNext : Pattern.resume p.stepOver m with
      | none =>
        simp only [hNext]
        exact .pure
      | some next =>
        simp only [hNext]
        exact (ih next).bind .pure

theorem yields_scan {f : Found → Except Failure α} {g : Found → α}
    (hCause : ∀ failure, e.GivesUp (p.copy true) t failure → cause failure)
    (hMatch : ∀ m, Yields cause (g m) (f m)) :
    Yields cause ((p.scan t).map g) (e.scan p t f) :=
  yields_visit hCause hMatch t (Cursor.start t)

/-- A scan fails if its first search does. -/
theorem scan_of_failure {f : Found → Except Failure α} {failure : Failure}
    (h : e.search (p.copy true) t 0 = some failure) : e.scan p t f = .error failure := by
  have hFind : e.find p t (Cursor.start t) = .error failure := by
    rw [find, Cursor.start, h]
    rfl
  cases t <;> rw [scan, visit, hFind] <;> rfl

theorem not_givesUp_tireless {failure : Failure} : ¬tireless.GivesUp p t failure := by
  rintro ⟨i, h⟩
  cases h

end Engine
end LogTriage
