import LogTriage.Proofs.Pattern.FlagLetters
import LogTriage.Proofs.Rule.Composition
import LogTriage.Proofs.Text.Decimal

/-! # What the report on a raw rule names

A rule is refused if one of its fields is bad. The report names the bad fields in a fixed order as long as
the flags are good. Bad flags hide the regex: with a letter that is not allowed the regex is not looked at,
and flags of allowed letters that repeat are put down to the regex.
-/

namespace LogTriage

set_option autoImplicit false

namespace RawRule

/-- The fields that a report can name, in its order. -/
inductive Field where
  | flags
  | regex
  | category
  | severity
  deriving DecidableEq, Repr

namespace Field

def all : List Field := [.flags, .regex, .category, .severity]

theorem mem_all (f : Field) : f ∈ all := by cases f <;> decide

def name : Field → String
  | flags => "flags"
  | regex => "regex"
  | category => "category"
  | severity => "severity"

def path (index : Nat) (f : Field) : Text :=
  Text.ofNat index ++ Text.ofString "." ++ Text.ofString f.name

end Field

def allowedFlags : Text := Text.ofString "imsu"

def flagText (raw : RawRule) : Text := raw.flags.getD []

/-- The flags are some of the allowed letters, none twice. -/
def HasFlags (raw : RawRule) : Prop := raw.flagText.Nodup ∧ raw.flagText ⊆ allowedFlags

def HasForeignFlag (raw : RawRule) : Prop := ¬ raw.flagText ⊆ allowedFlags

/-- The flags are allowed letters, but one is there twice. -/
def RepeatsFlag (raw : RawRule) : Prop := ¬ raw.flagText.Nodup ∧ raw.flagText ⊆ allowedFlags

variable {raw : RawRule}

instance : Decidable raw.HasFlags := inferInstanceAs (Decidable (_ ∧ raw.flagText ⊆ _))

instance : Decidable raw.HasForeignFlag := inferInstanceAs (Decidable (¬ raw.flagText ⊆ _))

instance : Decidable raw.RepeatsFlag := inferInstanceAs (Decidable (_ ∧ raw.flagText ⊆ _))

/-- The flags that the regex is judged under: none where those given are bad. -/
def judgedFlags (raw : RawRule) : Text := if raw.HasFlags then raw.flagText else []

/-- What is wrong with a raw rule, field by field. -/
def Bad (raw : RawRule) : Field → Prop
  | .flags => ¬ raw.HasFlags
  | .regex => (Pattern.compile raw.regex raw.judgedFlags).toOption = none
  | .category => ∃ given ∈ raw.category, Category.ofName? given = none
  | .severity => ∃ given ∈ raw.severity, given.priority? = none

instance (f : Field) : Decidable (raw.Bad f) :=
  match f with
  | .flags => inferInstanceAs (Decidable (¬ raw.HasFlags))
  | .regex => inferInstanceAs (Decidable (_ = none))
  | .category => inferInstanceAs (Decidable (∃ given ∈ raw.category, _ = none))
  | .severity => inferInstanceAs (Decidable (∃ given ∈ raw.severity, _ = none))

/-! ## Which fields are named -/

/-- Whether the report names a field. -/
def Named (raw : RawRule) : Field → Prop
  | .flags => raw.HasForeignFlag
  | .regex => ¬ raw.HasForeignFlag ∧ (Pattern.compile raw.regex raw.flagText).toOption = none
  | f => raw.Bad f

instance (f : Field) : Decidable (raw.Named f) :=
  match f with
  | .flags => inferInstanceAs (Decidable raw.HasForeignFlag)
  | .regex => inferInstanceAs (Decidable (¬ raw.HasForeignFlag ∧ _ = none))
  | .category => inferInstanceAs (Decidable (raw.Bad .category))
  | .severity => inferInstanceAs (Decidable (raw.Bad .severity))

theorem isAllowedFlag_iff {u : CodeUnit} : isAllowedFlag u = true ↔ u ∈ allowedFlags := by
  have hAllowed : allowedFlags = ['i', 'm', 's', 'u'].map Text.unit := by decide
  have hLetters : ∀ c ∈ ['i', 'm', 's', 'u'], c ≠ '\x00' ∧ c.toNat < 65536 := by simp
  rw [hAllowed, isAllowedFlag, List.contains_iff_mem, List.mem_map]
  constructor
  · intro hMem
    obtain ⟨hNul, hSmall⟩ := hLetters _ hMem
    exact ⟨_, hMem, ((Text.charOf_unit_iff hNul hSmall).mp rfl).symm⟩
  · rintro ⟨c, hMem, rfl⟩
    obtain ⟨hNul, hSmall⟩ := hLetters c hMem
    rwa [(Text.charOf_unit_iff hNul hSmall).mpr rfl]

theorem all_isAllowedFlag_iff : raw.flagText.all isAllowedFlag = true ↔ ¬ raw.HasForeignFlag := by
  simp only [List.all_eq_true, isAllowedFlag_iff, HasForeignFlag, not_not, List.subset_def]

theorem ofText_isSome_iff {t : Text} (h : t ⊆ allowedFlags) :
    (Pattern.Flags.ofText t).isSome = true ↔ t.Nodup := by
  have hLetter : ∀ u ∈ t, Text.charOf u ∈ ['i', 'm', 's', 'u'] :=
    fun u hu => List.contains_iff_mem.mp (isAllowedFlag_iff.mpr (h hu))
  have hKnown : ['i', 'm', 's', 'u'] ⊆ ['d', 'g', 'i', 'm', 's', 'u', 'y'] := by decide
  have hNul : '\x00' ∉ ['i', 'm', 's', 'u'] := by decide
  rw [Pattern.Flags.ofText_isSome_iff, List.forall_mem_map]
  constructor
  · rintro ⟨hNodup, -⟩
    exact hNodup.of_map
  · intro hNodup
    refine ⟨hNodup.map_on ?_, fun u hu => hKnown (hLetter u hu)⟩
    intro u hu v _
    exact Text.charOf_inj (ne_of_mem_of_not_mem (hLetter u hu) hNul)

theorem compile_of_repeatsFlag (h : raw.RepeatsFlag) (regex : Text) :
    (Pattern.compile regex raw.flagText).toOption = none := by
  have hNone : Pattern.Flags.ofText raw.flagText = none := by
    rw [← Option.not_isSome_iff_eq_none, ofText_isSome_iff h.2]
    exact h.1
  rw [Pattern.compile, hNone]
  rfl

theorem flags_cases (raw : RawRule) : raw.HasFlags ∨ raw.HasForeignFlag ∨ raw.RepeatsFlag := by
  by_cases hForeign : raw.HasForeignFlag
  · exact .inr (.inl hForeign)
  · have hAll : raw.flagText ⊆ allowedFlags := not_not.mp hForeign
    by_cases hNodup : raw.flagText.Nodup
    · exact .inl ⟨hNodup, hAll⟩
    · exact .inr (.inr ⟨hNodup, hAll⟩)

theorem HasFlags.not_foreign (h : raw.HasFlags) : ¬ raw.HasForeignFlag := not_not.mpr h.2

theorem HasForeignFlag.not_hasFlags (h : raw.HasForeignFlag) : ¬ raw.HasFlags :=
  fun hFlags => hFlags.not_foreign h

theorem RepeatsFlag.not_hasFlags (h : raw.RepeatsFlag) : ¬ raw.HasFlags := fun hFlags => h.1 hFlags.1

theorem RepeatsFlag.not_foreign (h : raw.RepeatsFlag) : ¬ raw.HasForeignFlag := not_not.mpr h.2

/-- Under good flags the report is right. -/
theorem named_iff_of_hasFlags (h : raw.HasFlags) (f : Field) : raw.Named f ↔ raw.Bad f := by
  cases f with
  | flags => simp [Named, Bad, h, h.not_foreign]
  | regex => simp [Named, Bad, judgedFlags, h, h.not_foreign]
  | category => rfl
  | severity => rfl

/-- With a letter that is not allowed the regex is passed over. -/
theorem named_iff_of_hasForeignFlag (h : raw.HasForeignFlag) (f : Field) :
    raw.Named f ↔ raw.Bad f ∧ f ≠ .regex := by
  cases f with
  | flags => simp [Named, Bad, h, h.not_hasFlags]
  | regex => simp [Named, h]
  | category => simp [Named]
  | severity => simp [Named]

/-- A letter that is there twice is put down to the regex. -/
theorem named_iff_of_repeatsFlag (h : raw.RepeatsFlag) (f : Field) :
    raw.Named f ↔ f = .regex ∨ raw.Bad f ∧ f ≠ .flags := by
  cases f with
  | flags => simp [Named, h.not_foreign]
  | regex => simp [Named, h.not_foreign, compile_of_repeatsFlag h]
  | category => simp [Named]
  | severity => simp [Named]

theorem exists_named_iff : (∃ f, raw.Named f) ↔ ∃ f, raw.Bad f := by
  -- Bad flags are always named, as themselves or as the regex.
  rcases raw.flags_cases with h | h | h
  · simp only [named_iff_of_hasFlags h]
  · have hNamed : raw.Named .flags := h
    exact ⟨fun _ => ⟨.flags, h.not_hasFlags⟩, fun _ => ⟨.flags, hNamed⟩⟩
  · have hNamed : raw.Named .regex := (named_iff_of_repeatsFlag h .regex).mpr (.inl rfl)
    exact ⟨fun _ => ⟨.flags, h.not_hasFlags⟩, fun _ => ⟨.regex, hNamed⟩⟩

/-! ## The faults -/

def namedFields (raw : RawRule) : List Field := Field.all.filter raw.Named

theorem pattern_faults (raw : RawRule) : (faultOf raw.pattern).map (·.field) =
    ([Field.flags, Field.regex].filter raw.Named).map Field.name := by
  by_cases hForeign : raw.HasForeignFlag
  · have hPattern : raw.pattern = .error (.flags raw.flagText) := by
      rw [RawRule.pattern, ← flagText, if_neg (mt all_isAllowedFlag_iff.mp (not_not.mpr hForeign))]
    simp [hPattern, faultOf, Fault.field, Named, hForeign, Field.name]
  · rw [RawRule.pattern, ← flagText, if_pos (all_isAllowedFlag_iff.mpr hForeign)]
    cases hCompile : Pattern.compile raw.regex raw.flagText with
    | ok p => simp [faultOf, Named, hForeign, hCompile, Except.toOption]
    | error e =>
      simp [faultOf, Fault.field, Named, hForeign, hCompile, Except.toOption, Field.name]

theorem category_faults (raw : RawRule) : (faultOf raw.eventCategory).map (·.field) =
    ([Field.category].filter raw.Named).map Field.name := by
  rw [eventCategory]
  cases hGiven : raw.category with
  | none => simp [faultOf, Named, Bad, hGiven]
  | some given =>
    cases hCategory : Category.ofName? given with
    | none => simp [faultOf, Fault.field, Named, Bad, hGiven, hCategory, Field.name]
    | some c => simp [faultOf, Named, Bad, hGiven, hCategory]

theorem severity_faults (raw : RawRule) : (faultOf raw.eventSeverity).map (·.field) =
    ([Field.severity].filter raw.Named).map Field.name := by
  rw [eventSeverity]
  cases hGiven : raw.severity with
  | none => simp [faultOf, Named, Bad, hGiven]
  | some given =>
    cases hPriority : given.priority? with
    | none => simp [faultOf, Fault.field, Named, Bad, hGiven, hPriority, Field.name]
    | some p => simp [faultOf, Named, Bad, hGiven, hPriority]

theorem map_field_faults (raw : RawRule) :
    raw.faults.map (·.field) = raw.namedFields.map Field.name := by
  rw [faults, List.map_append, List.map_append, pattern_faults, category_faults, severity_faults,
    ← List.map_append, ← List.map_append, ← List.filter_append, ← List.filter_append]
  rfl

theorem compiles_iff_not_bad : raw.Compiles ↔ ∀ f, ¬ raw.Bad f := by
  rw [← not_exists, ← exists_named_iff, compiles_iff, ← List.map_eq_nil_iff (f := Fault.field),
    map_field_faults, List.map_eq_nil_iff, namedFields, List.filter_eq_nil_iff, not_exists]
  simp [Field.mem_all]

theorem map_path_issues (raw : RawRule) (index : Nat) :
    (RuleError.issues ⟨index, raw.faults⟩).map (·.path) = raw.namedFields.map (Field.path index) := by
  calc
    (RuleError.issues ⟨index, raw.faults⟩).map (·.path)
      = (raw.faults.map (·.field)).map fun name =>
          Text.ofNat index ++ Text.ofString "." ++ Text.ofString name := by
        rw [RuleError.issues, List.map_map, List.map_map]
        rfl
    _ = raw.namedFields.map (Field.path index) := by
        rw [map_field_faults, List.map_map]
        rfl

/-! ## Mending -/

/-- The rule with the fields listed replaced, the flags by none and the others by those of `valid`. -/
def mended (raw valid : RawRule) (named : List Field) : RawRule :=
  { raw with
    flags := if .flags ∈ named then some [] else raw.flags
    regex := if .regex ∈ named then valid.regex else raw.regex
    category := if .category ∈ named then valid.category else raw.category
    severity := if .severity ∈ named then valid.severity else raw.severity }

variable {valid : RawRule} {named : List Field}

theorem hasFlags_congr {other : RawRule} (h : raw.flagText = other.flagText) :
    raw.HasFlags ↔ other.HasFlags := by
  rw [HasFlags, HasFlags, h]

theorem flagText_mended (raw valid : RawRule) (named : List Field) :
    (raw.mended valid named).flagText = if .flags ∈ named then [] else raw.flagText := by
  rw [flagText, mended]
  split_ifs <;> rfl

theorem judgedFlags_mended (h : .flags ∈ named → raw.Bad .flags) :
    (raw.mended valid named).judgedFlags = raw.judgedFlags := by
  have hText := flagText_mended raw valid named
  split_ifs at hText with hNamed
  · have hBad : ¬ raw.HasFlags := h hNamed
    rw [judgedFlags, judgedFlags, hText, if_neg hBad, ite_self]
  · simp only [judgedFlags, hasFlags_congr hText, hText]

/-- What has been replaced is no longer bad, and all else is as it was. -/
theorem bad_mended_iff (h : .flags ∈ named → raw.Bad .flags) (hValid : valid.Compiles)
    (hFlags : valid.flagText = raw.judgedFlags) (f : Field) :
    (raw.mended valid named).Bad f ↔ raw.Bad f ∧ f ∉ named := by
  have hGood := compiles_iff_not_bad.mp hValid
  by_cases hNamed : f ∈ named
  · simp only [hNamed, not_true_eq_false, and_false, iff_false]
    cases f with
    | flags =>
      have hNone : (raw.mended valid named).flagText = [] := by rw [flagText_mended, if_pos hNamed]
      simp [Bad, HasFlags, hNone]
    | regex =>
      -- Mending leaves the flags that the regex is judged under, so what is good under them stays good.
      have hJudged : valid.judgedFlags = raw.judgedFlags :=
        (if_pos (not_not.mp (hGood .flags))).trans hFlags
      have hRegex : (raw.mended valid named).regex = valid.regex := if_pos hNamed
      rw [Bad, judgedFlags_mended h, hRegex, ← hJudged]
      exact hGood .regex
    | category =>
      have hCategory : (raw.mended valid named).category = valid.category := if_pos hNamed
      rw [Bad, hCategory]
      exact hGood .category
    | severity =>
      have hSeverity : (raw.mended valid named).severity = valid.severity := if_pos hNamed
      rw [Bad, hSeverity]
      exact hGood .severity
  · simp only [hNamed, not_false_eq_true, and_true]
    cases f with
    | flags =>
      have hSame : (raw.mended valid named).flagText = raw.flagText := by rw [flagText_mended, if_neg hNamed]
      exact not_congr (hasFlags_congr hSame)
    | regex =>
      have hRegex : (raw.mended valid named).regex = raw.regex := if_neg hNamed
      rw [Bad, Bad, judgedFlags_mended h, hRegex]
    | category =>
      have hCategory : (raw.mended valid named).category = raw.category := if_neg hNamed
      rw [Bad, Bad, hCategory]
    | severity =>
      have hSeverity : (raw.mended valid named).severity = raw.severity := if_neg hNamed
      rw [Bad, Bad, hSeverity]

theorem compiles_mended_iff (h : .flags ∈ named → raw.Bad .flags) (hValid : valid.Compiles)
    (hFlags : valid.flagText = raw.judgedFlags) :
    (raw.mended valid named).Compiles ↔ ∀ f, raw.Bad f → f ∈ named := by
  simp only [compiles_iff_not_bad, bad_mended_iff h hValid hFlags, not_and, not_not]

end RawRule

open RawRule

/-- A raw rule is refused if a field is bad. Under good flags the report names the bad fields; a letter that
is not allowed hides the regex, and repeated letters are named as the regex. Replacing what is named mends
the rule if all that is bad is named. -/
theorem RuleSpec.compile_raw_report (raw : RawRule) (index : Nat) :
    ((∃ rule, compile index (.raw raw) = .ok rule) ↔ ∀ f, ¬ raw.Bad f) ∧
    ∀ e, compile index (.raw raw) = .error e → ∃ named : List Field,
      e.issues.map (·.path) = named.map (Field.path index) ∧
      (raw.HasFlags → named = Field.all.filter raw.Bad) ∧
      (raw.HasForeignFlag → named = Field.all.filter fun f => raw.Bad f ∧ f ≠ .regex) ∧
      (raw.RepeatsFlag → named = Field.all.filter fun f => f = .regex ∨ raw.Bad f ∧ f ≠ .flags) ∧
      ∀ valid : RawRule, valid.Compiles → valid.flagText = raw.judgedFlags →
        ((raw.mended valid named).Compiles ↔ ∀ f, raw.Bad f → f ∈ named) := by
  have hCompiles : (∃ rule, compile index (.raw raw) = .ok rule) ↔ raw.Compiles := by
    rw [compile, RawRule.Compiles]
    cases raw.compile <;> simp
  refine ⟨hCompiles.trans compiles_iff_not_bad, ?_⟩
  intro e he
  obtain rfl : (⟨index, raw.faults⟩ : RuleError) = e := by
    rcases raw.compile_eq_ok_or with ⟨rule, hRule, -⟩ | ⟨hError, -⟩
    · simp [compile, hRule] at he
    · simpa [compile, hError] using he
  refine ⟨raw.namedFields, map_path_issues raw index, ?_, ?_, ?_, ?_⟩
  · intro h
    exact List.filter_congr fun f _ => decide_eq_decide.mpr (named_iff_of_hasFlags h f)
  · intro h
    exact List.filter_congr fun f _ => decide_eq_decide.mpr (named_iff_of_hasForeignFlag h f)
  · intro h
    exact List.filter_congr fun f _ => decide_eq_decide.mpr (named_iff_of_repeatsFlag h f)
  · intro valid hValid hFlags
    refine compiles_mended_iff ?_ hValid hFlags
    intro hNamed
    have hForeign : raw.HasForeignFlag := of_decide_eq_true (List.mem_filter.mp hNamed).2
    exact hForeign.not_hasFlags

def RawRule.unclosed : RawRule where
  regex := Text.ofString "("
  message := Text.ofString "m"
  category := some (Text.ofString "NOPE")
  severity := some (.name (Text.ofString "NOPE"))

def RawRule.closed : RawRule where
  regex := Text.ofString "()"
  message := Text.ofString "m"

theorem RuleSpec.compile_raw_report_unclosed : ∃ e, compile 3 (.raw unclosed) = .error e ∧
    e.issues.map (·.path) = [.regex, .category, .severity].map (Field.path 3) ∧
    (unclosed.mended closed [.regex, .category, .severity]).Compiles := by
  have hFlags : unclosed.HasFlags := by decide
  have hFields : Field.all.filter unclosed.Bad = [.regex, .category, .severity] := by decide +kernel
  have hValid : closed.Compiles := compiles_iff.mpr (by decide +kernel)
  obtain ⟨e, he⟩ : ∃ e, compile 3 (.raw unclosed) = .error e := ⟨⟨3, unclosed.faults⟩, by decide +kernel⟩
  obtain ⟨named, hPaths, hNamed, -, -, hMended⟩ := (compile_raw_report unclosed 3).2 e he
  obtain rfl : named = [.regex, .category, .severity] := (hNamed hFlags).trans hFields
  refine ⟨e, he, hPaths, (hMended closed hValid (by decide)).mpr ?_⟩
  intro f hf
  rw [← hFields]
  exact List.mem_filter.mpr ⟨f.mem_all, decide_eq_true hf⟩

def RawRule.masked : RawRule where
  regex := Text.ofString "("
  message := Text.ofString "m"
  flags := some (Text.ofString "g")

def RawRule.doubled : RawRule where
  regex := Text.ofString "x"
  message := Text.ofString "m"
  flags := some (Text.ofString "ii")

/-- One report leaves a bad regex out, so that mending what it names is not enough. The other names a regex
that is good, and not the flags. -/
theorem RuleSpec.compile_raw_masked :
    (∃ e, compile 0 (.raw masked) = .error e ∧
      e.issues.map (·.path) = [Field.path 0 .flags] ∧
      Field.all.filter masked.Bad = [.flags, .regex] ∧
      ¬ RawRule.Compiles { masked with flags := some [] }) ∧
    ∃ e, compile 0 (.raw doubled) = .error e ∧
      e.issues.map (·.path) = [Field.path 0 .regex] ∧
      Field.all.filter doubled.Bad = [.flags] := by
  refine ⟨⟨⟨0, masked.faults⟩, ?_⟩, ⟨0, doubled.faults⟩, ?_⟩
  · rw [compiles_iff]
    decide +kernel
  · decide +kernel

end LogTriage
