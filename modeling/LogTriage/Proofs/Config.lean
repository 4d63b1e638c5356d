import LogTriage.Config
import LogTriage.Proofs.Dmesg.Args
import LogTriage.Proofs.Rule.Composition

/-! # What a configuration file gives

A file is taken for the section it has, and a section that passes its check still has to have rules that
compile. So whatever is loaded is sound, and its rules are never refused later.
-/

namespace LogTriage

set_option autoImplicit false

open Schema Schema.Checked

namespace Config

/-- The fields of the section for kernel logs, if a file has one. -/
def Holds (bytes : List UInt8) (fs : Json.Fields) : Prop :=
  ∃ top : Json.Fields, Json.parse? (Text.Utf8.decode bytes) = some (.object top) ∧
    top.get? (Text.ofString "dmesg") = some (.object fs)

theorem loadFile_of_holds {bytes : List UInt8} {fs : Json.Fields} (h : Holds bytes fs)
    {args : Dmesg.Args} (hArgs : Dmesg.Args.check [] (some (.object fs)) = .valid args) :
    loadFile (some bytes) = checkPatterns args := by
  obtain ⟨top, hParse, hSection⟩ := h
  have hFile : fileSchema [] (some (.object top)) = .valid (some args) := by
    refine bind_eq_valid_iff.mpr ⟨top, fields_eq_valid_iff.mpr rfl, ?_⟩
    rw [field, hSection]
    exact map_eq_valid_iff.mpr ⟨args, Dmesg.Args.check_placeless.moved hArgs, rfl⟩
  rw [loadFile, hParse]
  simp only [ofJson, hFile, Option.getD_some]

theorem sound_default : Dmesg.Args.default.IsSound where
  rangeStart := by simp [Dmesg.Args.default]
  rangeEnd := by simp [Dmesg.Args.default]
  patterns := by simp [Dmesg.Args.default]
  keep := by decide

theorem checkPatterns_eq_ok_iff {args d : Dmesg.Args} :
    checkPatterns args = .ok d ↔ args = d ∧ ∀ raw ∈ d.patterns, raw.Compiles := by
  rw [checkPatterns]
  constructor
  · intro h
    split at h
    · next rules hCompose =>
      obtain rfl := Except.ok.inj h
      exact ⟨rfl, RawRule.compiles_of_compose hCompose⟩
    · cases h
  · rintro ⟨rfl, hAll⟩
    obtain ⟨rules, -, hCompose⟩ := RawRule.compose_eq_ok hAll
    rw [hCompose]

theorem sound_of_fileSchema {value : Option Json} {args : Option Dmesg.Args}
    (h : fileSchema [] value = .valid args) : (args.getD .default).IsSound := by
  obtain ⟨fs, -, hSection⟩ := bind_eq_valid_iff.mp h
  cases args with
  | none => exact sound_default
  | some a => exact Dmesg.Args.check_roundTrips.optional.sound hSection a rfl

/-- Defaults that are loaded are sound, and their rules compile. -/
theorem loadFile_sound {file : Option (List UInt8)} {d : Dmesg.Args} (h : loadFile file = .ok d) :
    d.IsSound ∧ ∀ raw ∈ d.patterns, raw.Compiles := by
  cases file with
  | none =>
    obtain rfl := Except.ok.inj h
    exact ⟨sound_default, by simp [Dmesg.Args.default]⟩
  | some bytes =>
    rw [loadFile] at h
    split at h
    · cases h
    · next json hParse =>
      rw [ofJson] at h
      split at h
      · cases h
      · next args hArgs =>
        obtain ⟨rfl, hAll⟩ := checkPatterns_eq_ok_iff.mp h
        exact ⟨sound_of_fileSchema hArgs, hAll⟩

end Config
end LogTriage
