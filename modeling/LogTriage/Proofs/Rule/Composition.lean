import LogTriage.Rule
import Mathlib.Data.List.Forall2

/-! # Composing rules

Either every raw rule compiles, and the composed list is the compiled rules before the base rules; or
composing fails with all the faults of the first raw rule that does not compile.
-/

namespace LogTriage

set_option autoImplicit false

namespace RawRule

def Compiles (raw : RawRule) : Prop := ∃ rule, raw.compile = .ok rule

theorem compile_eq_ok_or (raw : RawRule) :
    (∃ rule, raw.compile = .ok rule ∧ raw.faults = []) ∨
      raw.compile = .error raw.faults ∧ raw.faults ≠ [] := by
  unfold compile RawRule.faults
  cases raw.pattern <;> cases raw.eventCategory <;> cases raw.eventSeverity <;> simp [faultOf]

theorem compiles_iff {raw : RawRule} : raw.Compiles ↔ raw.faults = [] := by
  rcases raw.compile_eq_ok_or with ⟨rule, hRule, hNone⟩ | ⟨hError, hSome⟩
  · simp [Compiles, hRule, hNone]
  · simp [Compiles, hError, hSome]

/-- The compiled forms of raw rules, in the same order. -/
def Compiled (raws : List RawRule) (rules : List Rule) : Prop :=
  raws.Forall₂ (fun raw rule => raw.compile = .ok rule) rules

theorem Compiled.compiles {raws : List RawRule} {rules : List Rule} (h : Compiled raws rules)
    {raw : RawRule} (hRaw : raw ∈ raws) : raw.Compiles := by
  induction h with
  | nil => cases hRaw
  | cons hFirst _ ih =>
    rcases List.mem_cons.mp hRaw with rfl | hRest
    · exact ⟨_, hFirst⟩
    · exact ih hRest

end RawRule

/-- The error of the first raw rule that does not compile, with all that is wrong with the rule. -/
structure RuleError.IsFirst (e : RuleError) (raws : List RawRule) : Prop where
  refused : ∃ raw, raws[e.index]? = some raw ∧ ¬raw.Compiles ∧ raw.faults = e.faults
  earlier : ∀ i < e.index, ∀ raw, raws[i]? = some raw → raw.Compiles

theorem RuleError.IsFirst.not_lt {e other : RuleError} {raws : List RawRule} (h : e.IsFirst raws)
    (hOther : other.IsFirst raws) : ¬e.index < other.index := by
  intro hLt
  obtain ⟨raw, hRaw, hNot, -⟩ := h.refused
  exact hNot (hOther.earlier e.index hLt raw hRaw)

theorem RuleError.IsFirst.unique {e other : RuleError} {raws : List RawRule} (h : e.IsFirst raws)
    (hOther : other.IsFirst raws) : e = other := by
  have hIndex : e.index = other.index := by
    have hNotLt := h.not_lt hOther
    have hNotGt := hOther.not_lt h
    omega
  obtain ⟨index, faults⟩ := e
  obtain ⟨otherIndex, otherFaults⟩ := other
  obtain ⟨raw, hRaw, -, rfl⟩ := h.refused
  obtain ⟨same, hSame, -, rfl⟩ := hOther.refused
  obtain rfl : index = otherIndex := hIndex
  obtain rfl : raw = same := Option.some.inj (hRaw.symm.trans hSame)
  rfl

namespace RuleSpec

/-- Compiling goes on as long as the rules compile, and counts them. -/
theorem compileFrom_cases (start : Nat) (raws : List RawRule) :
    (∃ rules, RawRule.Compiled raws rules ∧ compileFrom start (raws.map .raw) = .ok rules) ∨
      ∃ e : RuleError, e.IsFirst raws ∧
        compileFrom start (raws.map .raw) = .error ⟨start + e.index, e.faults⟩ := by
  induction raws generalizing start with
  | nil => exact .inl ⟨[], .nil, rfl⟩
  | cons raw rest ih =>
    rcases raw.compile_eq_ok_or with ⟨rule, hRule, -⟩ | ⟨hError, hSome⟩
    · rcases ih (start + 1) with ⟨rules, hCompiled, hRest⟩ | ⟨e, hFirst, hRest⟩
      · refine .inl ⟨rule :: rules, .cons hRule hCompiled, ?_⟩
        simp [compileFrom, compile, hRule, hRest]
      · refine .inr ⟨⟨e.index + 1, e.faults⟩, ⟨hFirst.refused, ?_⟩, ?_⟩
        · intro i hi r hr
          cases i with
          | zero =>
            obtain rfl : raw = r := by simpa using hr
            exact ⟨rule, hRule⟩
          | succ i => exact hFirst.earlier i (Nat.lt_of_succ_lt_succ hi) r hr
        · simp only [List.map_cons, compileFrom, compile, hRule, hRest]
          rw [Nat.add_right_comm, Nat.add_assoc]
    · have hNot : ¬raw.Compiles := fun h => hSome (RawRule.compiles_iff.mp h)
      refine .inr ⟨⟨0, raw.faults⟩, ⟨⟨raw, rfl, hNot, rfl⟩, by simp⟩, ?_⟩
      simp [compileFrom, compile, hError]

end RuleSpec

namespace RawRule

/-- What composing comes to does not depend on the base rules. -/
theorem compose_cases (raws : List RawRule) :
    (∃ rules, Compiled raws rules ∧ ∀ base, compose raws base = .ok (rules ++ base)) ∨
      ∃ e : RuleError, e.IsFirst raws ∧ ∀ base, compose raws base = .error e := by
  rcases RuleSpec.compileFrom_cases 0 raws with ⟨rules, hCompiled, hRules⟩ | ⟨e, hFirst, hError⟩
  · refine .inl ⟨rules, hCompiled, ?_⟩
    intro base
    rw [compose, RuleSpec.compose, hRules]
    rfl
  · refine .inr ⟨e, hFirst, ?_⟩
    intro base
    rw [compose, RuleSpec.compose, hError, Nat.zero_add]
    rfl

theorem compose_eq_ok {raws : List RawRule} (h : ∀ raw ∈ raws, raw.Compiles) :
    ∃ rules, Compiled raws rules ∧ ∀ base, compose raws base = .ok (rules ++ base) := by
  refine (compose_cases raws).resolve_right ?_
  rintro ⟨e, hFirst, -⟩
  obtain ⟨raw, hRaw, hNot, -⟩ := hFirst.refused
  exact hNot (h raw (List.mem_of_getElem? hRaw))

theorem compiles_of_compose {raws : List RawRule} {base rules : List Rule}
    (h : compose raws base = .ok rules) : ∀ raw ∈ raws, raw.Compiles := by
  rcases compose_cases raws with ⟨_, hCompiled, -⟩ | ⟨e, -, hError⟩
  · intro raw hRaw
    exact hCompiled.compiles hRaw
  · rw [hError] at h
    cases h

end RawRule
end LogTriage
