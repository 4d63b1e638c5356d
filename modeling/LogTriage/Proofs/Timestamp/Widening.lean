import LogTriage.Proofs.Timestamp.Selection
import Mathlib.Data.List.Induction
import Mathlib.Data.List.Perm.Basic

/-! # Widening the interval

A wider interval takes other timestamps than a narrower one, but no more of them. Each that it takes is
charged to one that the narrower interval took: to itself, or to the one that kept it from being taken
there. No timestamp is charged twice, since of three timestamps near to a fourth two lie on the same
side of it and are near to each other.
-/

namespace LogTriage.Timestamp

set_option autoImplicit false

section Nearness

variable {interval : Number} {s t x y : Text}

theorem near_iff {a b : Rat} (hs : parse s = some a) (ht : parse t = some b) :
    Near interval s t ↔ hasOffset s = hasOffset t ∧
      (Number.finite (Binary64.nearest |a - b|)).lt (interval.scaleBy 1000) = true := by
  simp only [Near, hs, ht, Option.some.injEq, exists_and_left, exists_eq_left', Binary64.abs_nearest]

theorem Near.of_same_side {a b c : Rat} (ha : parse x = some a) (hb : parse y = some b)
    (hc : parse s = some c) (hx : Near interval x s) (hy : Near interval y s)
    (hSide : c ≤ a ∧ c ≤ b ∨ a ≤ c ∧ b ≤ c) : Near interval x y := by
  rw [near_iff ha hc] at hx
  rw [near_iff hb hc] at hy
  rw [near_iff ha hb]
  refine ⟨hx.1.trans hy.1.symm, ?_⟩
  have hLe : |a - b| ≤ |a - c| ∨ |a - b| ≤ |b - c| := by
    rcases hSide with ⟨hca, hcb⟩ | ⟨hac, hbc⟩
    · rw [abs_of_nonneg (sub_nonneg.mpr hca), abs_of_nonneg (sub_nonneg.mpr hcb), abs_le, abs_le]
      rcases le_total a b with h | h
      · exact .inr ⟨by linarith, by linarith⟩
      · exact .inl ⟨by linarith, by linarith⟩
    · rw [abs_of_nonpos (sub_nonpos.mpr hac), abs_of_nonpos (sub_nonpos.mpr hbc), abs_le, abs_le]
      rcases le_total a b with h | h
      · exact .inl ⟨by linarith, by linarith⟩
      · exact .inr ⟨by linarith, by linarith⟩
  rcases hLe with h | h
  · exact Number.lt_of_le_of_lt_finite (Binary64.nearest_le_nearest h) hx.2
  · exact Number.lt_of_le_of_lt_finite (Binary64.nearest_le_nearest h) hy.2

/-- Two of three values lie on one side of a fourth. -/
theorem Near.of_three (ht : Near interval t s) (hx : Near interval x s) (hy : Near interval y s) :
    Near interval t x ∨ Near interval t y ∨ Near interval x y := by
  obtain ⟨a, d, ha, hd, -⟩ := id ht
  obtain ⟨b, -, hb, -⟩ := id hx
  obtain ⟨c, -, hc, -⟩ := id hy
  have htx := Near.of_same_side ha hb hd ht hx
  have hty := Near.of_same_side ha hc hd ht hy
  have hxy := Near.of_same_side hb hc hd hx hy
  have hSides : (d ≤ a ∧ d ≤ b ∨ a ≤ d ∧ b ≤ d) ∨ (d ≤ a ∧ d ≤ c ∨ a ≤ d ∧ c ≤ d) ∨
      (d ≤ b ∧ d ≤ c ∨ b ≤ d ∧ c ≤ d) := by
    grind
  exact hSides.imp htx (Or.imp hty hxy)

theorem Near.widen {i j : Rat} (h : i ≤ j) (hNear : Near (.finite i) s t) :
    Near (.finite j) s t := by
  obtain ⟨a, b, ha, hb, hOffset, hLt⟩ := hNear
  have hScaled : i * 1000 ≤ j * 1000 := mul_le_mul_of_nonneg_right h (by norm_num)
  exact ⟨a, b, ha, hb, hOffset, Number.lt_ofRat_of_le hScaled hLt⟩

end Nearness

/-- A timestamp that is near to anything can be read, so it is taken only for lying apart. -/
theorem Admissible.apart {interval wider : Number} {taken : List Text} {s t : Text}
    (h : Admissible wider taken t) (hNear : Near interval t s) :
    ∀ y ∈ taken, ¬ Near wider t y := by
  rcases h with hParse | hApart
  · obtain ⟨a, b, ha, -⟩ := hNear
    rw [hParse] at ha
    cases ha
  · exact hApart

/-- What the walk passes over is near to something that it took. -/
theorem select_covers (interval : Number) {ts : List Text} {s : Text} (h : s ∈ ts) :
    s ∈ select interval ts ∨ ∃ y ∈ select interval ts, Near interval y s := by
  induction ts using List.reverseRecOn with
  | nil => simp at h
  | append_singleton ts t ih =>
    obtain ⟨added, hEq⟩ := select_isPrefix interval ts [t]
    rw [← hEq]
    rcases List.mem_append.mp h with hBefore | hLast
    · rcases ih hBefore with hTaken | ⟨y, hy, hNear⟩
      · exact .inl (List.mem_append_left _ hTaken)
      · exact .inr ⟨y, List.mem_append_left _ hy, hNear⟩
    · rw [List.mem_singleton.mp hLast, hEq]
      rcases select_concat interval ts t with ⟨-, hTook⟩ | ⟨⟨y, hy, hNear⟩, hSame⟩
      · exact .inl (by simp [hTook])
      · exact .inr ⟨y, hSame ▸ hy, hNear.symm⟩

/-- That `x`, which is among the `taken`, accounts for `s`: it is `s`, or it is near to `s` along with
another one on the other side. -/
def Charges (interval : Number) (taken : List Text) (x s : Text) : Prop :=
  x = s ∨ Near interval x s ∧ ∃ y ∈ taken, Near interval y s ∧ ¬ Near interval x y

/-- Every one of the `wide` timestamps has one of the `narrow` to itself. -/
def Matched (interval : Number) (narrow wide : List Text) : Prop :=
  ∃ pairs : List (Text × Text), pairs.map Prod.fst = wide ∧
    (pairs.map Prod.snd).Subperm narrow ∧ ∀ c ∈ pairs, Charges interval wide c.1 c.2

theorem Matched.length_le {interval : Number} {narrow wide : List Text}
    (h : Matched interval narrow wide) : wide.length ≤ narrow.length := by
  obtain ⟨pairs, rfl, hWithin, -⟩ := h
  simpa using hWithin.length_le

variable {interval : Number} {narrow wide : List Text} {s t : Text}

theorem Charges.mono {x : Text} (h : Charges interval wide x s) (more : List Text) :
    Charges interval (wide ++ more) x s := by
  rcases h with rfl | ⟨hNear, y, hy, hFar⟩
  · exact .inl rfl
  · exact .inr ⟨hNear, y, List.mem_append_left _ hy, hFar⟩

/-- A timestamp near to `s` that lies apart from all that are taken finds `s` without a charge. -/
theorem Charges.near {x : Text} (h : Charges interval wide x s) (hx : x ∈ wide)
    (ht : Near interval t s) : ∃ y ∈ wide, Near interval t y := by
  rcases h with rfl | ⟨hNear, y, hy, hNear', hFar⟩
  · exact ⟨x, hx, ht⟩
  · rcases ht.of_three hNear hNear' with h | h | h
    · exact ⟨x, hx, h⟩
    · exact ⟨y, hy, h⟩
    · exact absurd h hFar

theorem Matched.concat_narrow (h : Matched interval narrow wide) (t : Text) :
    Matched interval (narrow ++ [t]) wide := by
  obtain ⟨pairs, hWide, hWithin, hCharges⟩ := h
  exact ⟨pairs, hWide, hWithin.trans (List.sublist_append_left narrow [t]).subperm, hCharges⟩

/-- One more of the `wide` is charged to one more of the `narrow`. -/
theorem Matched.concat_wide {pairs : List (Text × Text)}
    (hWide : pairs.map Prod.fst = wide) (hCharges : ∀ c ∈ pairs, Charges interval wide c.1 c.2)
    (hWithin : (s :: pairs.map Prod.snd).Subperm narrow) (hOwn : Charges interval (wide ++ [t]) t s) :
    Matched interval narrow (wide ++ [t]) := by
  refine ⟨pairs ++ [(t, s)], by rw [List.map_append, hWide, List.map_singleton], ?_, ?_⟩
  · rw [List.map_append, List.map_singleton]
    exact (List.perm_append_singleton s _).subperm.trans hWithin
  · intro c hc
    rcases List.mem_append.mp hc with hc | hc
    · exact (hCharges c hc).mono [t]
    · rw [List.mem_singleton.mp hc]
      exact hOwn

theorem Matched.concat (h : Matched interval narrow wide) (t : Text) :
    Matched interval (narrow ++ [t]) (wide ++ [t]) := by
  obtain ⟨pairs, hWide, hWithin, hCharges⟩ := h
  refine .concat_wide hWide hCharges ?_ (.inl rfl)
  exact ((List.subperm_cons t).mpr hWithin).trans (List.perm_append_singleton t narrow).symm.subperm

/-- The one that kept `t` from being taken is free to be charged. -/
theorem Matched.charge (h : Matched interval narrow wide) (hs : s ∈ narrow)
    (hNear : Near interval t s) (hApart : ∀ y ∈ wide, ¬ Near interval t y)
    (hCovered : s ∈ wide ∨ ∃ y ∈ wide, Near interval y s) :
    Matched interval narrow (wide ++ [t]) := by
  obtain ⟨pairs, hWide, hWithin, hCharges⟩ := h
  have hFree : s ∉ pairs.map Prod.snd := by
    intro hCharged
    obtain ⟨c, hc, rfl⟩ := List.mem_map.mp hCharged
    have hTaken : c.1 ∈ wide := hWide ▸ List.mem_map_of_mem hc
    obtain ⟨y, hy, hNear'⟩ := (hCharges c hc).near hTaken hNear
    exact hApart y hy hNear'
  refine .concat_wide hWide hCharges (List.cons_subperm_of_not_mem_of_mem hFree hs hWithin) ?_
  rcases hCovered with hTaken | ⟨y, hy, hNear'⟩
  · exact absurd hNear (hApart s hTaken)
  · exact .inr ⟨hNear, y, List.mem_append_left _ hy, hNear', hApart y hy⟩

theorem matched_select {i j : Rat} (h : i ≤ j) (ts : List Text) :
    Matched (.finite j) (select (.finite i) ts) (select (.finite j) ts) := by
  induction ts using List.reverseRecOn with
  | nil => exact ⟨[], rfl, List.nil_subperm, fun c hc => absurd hc List.not_mem_nil⟩
  | append_singleton ts t ih =>
    rcases select_concat (.finite i) ts t with ⟨-, hNarrow⟩ | ⟨⟨s, hs, hNear⟩, hNarrow⟩ <;>
      rcases select_concat (.finite j) ts t with ⟨hAdmits, hWide⟩ | ⟨-, hWide⟩ <;>
      rw [hNarrow, hWide]
    · exact ih.concat t
    · exact ih.concat_narrow t
    · have hSeen : s ∈ ts := (select_sublist _ ts).subset hs
      exact ih.charge hs (hNear.widen h) (hAdmits.apart hNear) (select_covers _ hSeen)
    · exact ih

theorem length_select_antitone {i j : Rat} (h : i ≤ j) (ts : List Text) :
    (select (.finite j) ts).length ≤ (select (.finite i) ts).length :=
  (matched_select h ts).length_le

end LogTriage.Timestamp
