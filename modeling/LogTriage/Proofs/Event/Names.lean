import LogTriage.Event
import LogTriage.Proofs.Text.Trim
import LogTriage.Proofs.Text.Upper
import Mathlib.Data.List.Forall2
import Mathlib.Data.List.Nodup

/-! # Free-form names

A text names a category or a priority just if, trimmed and with its variant letters spelled out, it agrees
with the name letter by letter. Letters may be in either case; in a category an underscore may also be
written as a hyphen or a blank.
-/

namespace LogTriage

set_option autoImplicit false

open Unicode Text

/-! ## Exact names -/

theorem find?_name_eq_some_iff {α : Type} {all : List α} {name : α → String} (hAll : ∀ a, a ∈ all)
    (hInjective : Function.Injective name) {t : Text} {a : α} :
    (all.find? fun b => ofString (name b) == t) = some a ↔ t = ofString (name a) := by
  have hFound {b : α} (h : (all.find? fun b => ofString (name b) == t) = some b) :
      ofString (name b) = t := by
    simpa using List.find?_some h
  constructor
  · intro h
    exact (hFound h).symm
  · intro h
    obtain ⟨b, hb⟩ : ∃ b, (all.find? fun b => ofString (name b) == t) = some b := by
      rw [← Option.isSome_iff_exists, List.find?_isSome]
      exact ⟨a, hAll a, by simp [h]⟩
    rw [hb, hInjective (ofString_injective ((hFound hb).trans h))]

theorem name_injective_of_nodup {α : Type} {all : List α} {name : α → String} (hAll : ∀ a, a ∈ all)
    (hNodup : (all.map name).Nodup) : Function.Injective name :=
  fun a b h => List.inj_on_of_nodup_map hNodup (hAll a) (hAll b) h

theorem Category.name_injective : Function.Injective name :=
  name_injective_of_nodup mem_all (by decide)

theorem Category.ofExactName?_eq_some_iff {t : Text} {c : Category} :
    ofExactName? t = some c ↔ t = ofString c.name :=
  find?_name_eq_some_iff mem_all name_injective

/-! ## Agreement unit by unit -/

variable {u : CodeUnit} {t word : Text}

theorem map_eq_iff_forall₂ {f : CodeUnit → CodeUnit} {R : CodeUnit → CodeUnit → Prop}
    (h : ∀ unit ∈ word, ∀ u, f u = unit ↔ R unit u) : t.map f = word ↔ List.Forall₂ R word t := by
  induction word generalizing t with
  | nil => simp
  | cons unit rest ih =>
    rw [List.forall_mem_cons] at h
    cases t with
    | nil => simp
    | cons u t => rw [List.map_cons, List.cons.injEq, List.forall₂_cons, h.1 u, ih h.2]

/-- The replacement keeps all by which a text betrays that it is no name. -/
structure KeepsTraces (f : CodeUnit → CodeUnit) : Prop where
  foreign : ∀ u, Foreign u.toNat → f u = u
  ligature : ∀ pair ∈ ligatures, (pair.flatMap ofCodePoint).map f = pair.flatMap ofCodePoint

theorem KeepsTraces.betrays {f : CodeUnit → CodeUnit} (hf : KeepsTraces f) (h : Betrays t) :
    Betrays (t.map f) := by
  rcases h with ⟨u, hu, hForeign⟩ | ⟨pair, hPair, hInfix⟩
  · refine .inl ⟨u, List.mem_map.mpr ⟨u, hu, hf.foreign u hForeign⟩, hForeign⟩
  · refine .inr ⟨pair, hPair, ?_⟩
    rw [← hf.ligature pair hPair]
    exact hInfix.map f

theorem keepsTraces_id : KeepsTraces id where
  foreign _ _ := rfl
  ligature _ _ := List.map_id _

section

variable {join : CodeUnit → CodeUnit} {Writes : CodeUnit → CodeUnit → Prop}

theorem map_upper_ne_of_stray (hJoin : KeepsTraces join) (hWord : ¬ Betrays word) (hu : u ∈ t)
    (h : Stray u.toNat) : (upper t).map join ≠ word := by
  rintro rfl
  exact hWord (hJoin.betrays (betrays_upper hu h))

/-- A text in upper case is the name just if the text, spelled out, agrees with the name unit by unit. -/
theorem map_upper_eq_iff (hJoin : KeepsTraces join) (hWord : ¬ Betrays word)
    (hUnit : ∀ unit ∈ word, ∀ u, join (capital u) = unit ↔ Writes unit u) :
    (upper t).map join = word ↔ List.Forall₂ Writes word (spelledOut t) := by
  rw [← map_eq_iff_forall₂ hUnit]
  have hCompose : (spelledOut t).map (fun u => join (capital u)) =
      ((spelledOut t).map capital).map join := by
    rw [List.map_map, Function.comp_def]
  rw [hCompose]
  by_cases hStray : ∃ u ∈ t, Stray u.toNat
  · -- A stray unit shows on either side, so neither is the name.
    obtain ⟨u, hu, hStray⟩ := hStray
    apply iff_of_false (map_upper_ne_of_stray hJoin hWord hu hStray)
    rintro rfl
    exact hWord (hJoin.betrays (betrays_spelledOut hu hStray))
  · rw [upper_of_not_stray]
    intro u hu hNot
    exact hStray ⟨u, hu, hNot⟩

/-- Names that are looked up in upper case, after a replacement of single units; and what may be written
for a unit of a name. -/
structure Vocabulary {α : Type} (all : List α) (name : α → String) (join : CodeUnit → CodeUnit)
    (Writes : CodeUnit → CodeUnit → Prop) : Prop where
  complete : ∀ a, a ∈ all
  injective : Function.Injective name
  keepsTraces : KeepsTraces join
  plain : ∀ a ∈ all, ¬ Betrays (ofString (name a))
  agrees : ∀ a ∈ all, ∀ unit ∈ ofString (name a), ∀ u, join (capital u) = unit ↔ Writes unit u

variable {α : Type} {all : List α} {name : α → String}

theorem Vocabulary.find?_eq_some_iff (h : Vocabulary all name join Writes) {a : α} :
    (all.find? fun b => ofString (name b) == (upper t).map join) = some a ↔
      List.Forall₂ Writes (ofString (name a)) (spelledOut t) := by
  rw [find?_name_eq_some_iff h.complete h.injective]
  exact map_upper_eq_iff h.keepsTraces (h.plain a (h.complete a)) (h.agrees a (h.complete a))

theorem Vocabulary.find?_eq_none (h : Vocabulary all name join Writes) (hu : u ∈ t)
    (hStray : Stray u.toNat) :
    (all.find? fun b => ofString (name b) == (upper t).map join) = none := by
  rw [List.find?_eq_none]
  intro a ha hEq
  exact map_upper_ne_of_stray h.keepsTraces (h.plain a ha) hu hStray (beq_iff_eq.mp hEq).symm

end

/-! ## Categories -/

namespace Category

def IsSeparator (u : CodeUnit) : Prop := u = 0x5F ∨ u = 0x2D ∨ isBlank u.toNat = true

instance : DecidablePred IsSeparator := fun _ => inferInstanceAs (Decidable (_ ∨ _))

/-- What a text may have where the name of a category has this unit. -/
def StandsFor (unit u : CodeUnit) : Prop :=
  if unit = 0x5F then IsSeparator u else InEitherCase unit u

instance : DecidableRel StandsFor := fun _ _ => inferInstanceAs (Decidable (ite _ _ _))

def joinUnit (u : CodeUnit) : CodeUnit := if isBlank u.toNat || u == 0x2D then 0x5F else u

theorem isSeparator_iff_mem : IsSeparator u ↔ u.toNat ∈ 0x5F :: 0x2D :: blanks := by
  rw [IsSeparator, isBlank_iff_mem_blanks, List.mem_cons, List.mem_cons, ← UInt16.toNat_inj,
    ← UInt16.toNat_inj]
  rfl

theorem not_separator_of_letter (hFirst : 0x41 ≤ u.toNat) (hLast : u.toNat ≤ 0x7A)
    (hLine : u.toNat ≠ 0x5F) : ¬ IsSeparator u := by
  rw [isSeparator_iff_mem]
  simp only [blanks, List.mem_cons, List.not_mem_nil, or_false]
  omega

theorem isSeparator_capital : IsSeparator (capital u) ↔ IsSeparator u := by
  by_cases hSmall : 0x61 ≤ u.toNat ∧ u.toNat ≤ 0x7A
  · have hCapital : (capital u).toNat = u.toNat - 0x20 := by rw [toNat_capital, if_pos hSmall]
    exact iff_of_false (not_separator_of_letter (by omega) (by omega) (by omega))
      (not_separator_of_letter (by omega) (by omega) (by omega))
  · have hCapital : capital u = u := capital_eq_self hSmall
    rw [hCapital]

theorem joinUnit_of_separator (h : IsSeparator u) : joinUnit u = 0x5F := by
  rcases h with rfl | rfl | hBlank
  · decide
  · decide
  · simp [joinUnit, hBlank]

theorem joinUnit_of_not_separator (h : ¬ IsSeparator u) : joinUnit u = u := by
  simp only [IsSeparator, not_or] at h
  simp [joinUnit, h]

theorem keepsTraces_joinUnit : KeepsTraces joinUnit where
  foreign u hForeign := by
    apply joinUnit_of_not_separator
    rintro (rfl | rfl | hBlank)
    · exact absurd hForeign (by decide)
    · exact absurd hForeign (by decide)
    · exact absurd hForeign.2 (by simp [hBlank])
  ligature := by decide

theorem joinUnit_eq_line_iff : joinUnit u = 0x5F ↔ IsSeparator u := by
  by_cases h : IsSeparator u
  · exact iff_of_true (joinUnit_of_separator h) h
  · rw [joinUnit_of_not_separator h]
    exact iff_of_false (fun hLine => h (.inl hLine)) h

theorem joinUnit_eq_iff {unit : CodeUnit} (hUnit : ¬ IsSeparator unit) :
    joinUnit u = unit ↔ u = unit := by
  by_cases h : IsSeparator u
  · rw [joinUnit_of_separator h]
    exact iff_of_false (fun hLine => hUnit (.inl hLine.symm)) fun hEq => hUnit (hEq ▸ h)
  · rw [joinUnit_of_not_separator h]

theorem joinUnit_capital_eq_iff {unit : CodeUnit} (h : unit = 0x5F ∨ IsCapital unit) :
    joinUnit (capital u) = unit ↔ StandsFor unit u := by
  rcases h with rfl | hLetter
  · rw [joinUnit_eq_line_iff, isSeparator_capital, StandsFor, if_pos rfl]
  · obtain ⟨hFirst, hLast⟩ := hLetter
    have hUnit : ¬ IsSeparator unit := not_separator_of_letter hFirst (by omega) (by omega)
    rw [joinUnit_eq_iff hUnit, capital_eq_iff ⟨hFirst, hLast⟩, StandsFor,
      if_neg fun hLine => hUnit (.inl hLine)]

theorem vocabulary : Vocabulary all name joinUnit StandsFor where
  complete := mem_all
  injective := name_injective
  keepsTraces := keepsTraces_joinUnit
  plain := by decide +kernel
  agrees c hc unit hUnit u := by
    have hAll : ∀ c ∈ all, (ofString c.name).all (fun unit => unit = 0x5F ∨ IsCapital unit) := by
      decide +kernel
    have hShape := List.all_eq_true.mp (hAll c hc) unit hUnit
    exact joinUnit_capital_eq_iff (of_decide_eq_true hShape)

theorem ofName?_eq (t : Text) :
    ofName? t = all.find? fun c => ofString c.name == (upper (trim t)).map joinUnit := rfl

end Category

/-! ## Priorities -/

namespace Priority

theorem vocabulary : Vocabulary all name id InEitherCase where
  complete := mem_all
  injective := name_injective_of_nodup mem_all (by decide)
  keepsTraces := keepsTraces_id
  plain := by decide +kernel
  agrees p hp unit hUnit u := by
    have hAll : ∀ p ∈ all, (ofString p.name).all (fun unit => IsCapital unit) := by decide +kernel
    have hShape := List.all_eq_true.mp (hAll p hp) unit hUnit
    exact capital_eq_iff (of_decide_eq_true hShape)

theorem ofName?_eq (t : Text) :
    ofName? t = all.find? fun p => ofString p.name == (upper (trim t)).map id := by
  rw [List.map_id]
  rfl

end Priority

/-! ## Free-form names -/

/-- A text names a category or a priority just if it agrees with the name, its variant letters spelled
out. A stray character makes it the name of nothing. -/
theorem names_letterByLetter (t : Text) :
    (∀ c : Category, Category.ofName? t = some c ↔
      List.Forall₂ Category.StandsFor (ofString c.name) (spelledOut (trim t))) ∧
    (∀ p : Priority, Priority.ofName? t = some p ↔
      List.Forall₂ InEitherCase (ofString p.name) (spelledOut (trim t))) ∧
    ∀ u ∈ t, Stray u.toNat → Category.ofName? t = none ∧ Priority.ofName? t = none := by
  rw [Category.ofName?_eq, Priority.ofName?_eq]
  refine ⟨?_, ?_, ?_⟩
  · intro c
    exact Category.vocabulary.find?_eq_some_iff
  · intro p
    exact Priority.vocabulary.find?_eq_some_iff
  · intro u hu hStray
    have hMem : u ∈ trim t := mem_trim hu hStray.1.2
    exact ⟨Category.vocabulary.find?_eq_none hMem hStray, Priority.vocabulary.find?_eq_none hMem hStray⟩

/-- The dotless i stands for its letter in either kind of name, the capital sharp s in none. -/
theorem names_letterByLetter_dotless :
    Category.ofName? (ofString " sw-dr\u0131ver") = some .swDriver ∧
    Priority.ofName? (ofString "Cr\u0131tical\t") = some .critical ∧
    0x1E9E ∈ ofString "\u1e9eh" ∧ Stray 0x1E9E ∧ Category.ofName? (ofString "\u1e9eh") = none :=
  have hMem : 0x1E9E ∈ ofString "\u1e9eh" := by decide +kernel
  have hStray : Stray 0x1E9E := by decide +kernel
  ⟨((names_letterByLetter _).1 .swDriver).mpr (by decide +kernel),
    ((names_letterByLetter _).2.1 .critical).mpr (by decide +kernel),
    hMem, hStray, ((names_letterByLetter _).2.2 _ hMem hStray).1⟩

/-- Without spelling out, the sharp s and the dotless i agree with no letters, and yet they name. -/
theorem variants_named :
    (Category.ofName? (ofString "\u00dfh") = some .ssh ∧
      ¬ List.Forall₂ Category.StandsFor (ofString Category.ssh.name) (trim (ofString "\u00dfh"))) ∧
    (Priority.ofName? (ofString "\u0131nfo") = some .info ∧
      ¬ List.Forall₂ InEitherCase (ofString Priority.info.name) (trim (ofString "\u0131nfo"))) := by
  decide +kernel

end LogTriage
