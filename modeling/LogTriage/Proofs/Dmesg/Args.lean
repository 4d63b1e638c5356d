import LogTriage.Dmesg.Args
import LogTriage.Proofs.Event.Names
import LogTriage.Proofs.Schema.WrittenForm

/-! # Arguments over configured arguments

Accepted arguments can be written down and are accepted again, unchanged. So where a request is laid over
configured arguments, a field is settled by the request alone if the request has it, and by what is
configured if not; built-in defaults play no part, and no mismatch is ever found in what is configured.
-/

namespace LogTriage

set_option autoImplicit false

namespace Dmesg.Args

open Schema Schema.Checked

variable {α : Type} {path : Path} {value : Option Json}

theorem timestamp_eq_valid_iff {t : Text} :
    timestamp path value = .valid t ↔
      value = some (.text t) ∧ (Timestamp.parse t).isSome = true := by
  rw [timestamp, bind_eq_valid_iff]
  constructor
  · rintro ⟨u, hText, hParse⟩
    split_ifs at hParse with hSome
    · obtain rfl : u = t := by simpa using hParse
      exact ⟨(text_eq_valid_iff.mp hText).1, hSome⟩
    · exact absurd hParse mismatch_ne_valid
  · rintro ⟨rfl, hSome⟩
    exact ⟨t, text_eq_valid_iff.mpr ⟨rfl, within_zero _⟩, if_pos hSome⟩

theorem category_eq_valid_iff {c : Category} :
    category path value = .valid c ↔ value = some (.ofString c.name) := by
  constructor
  · intro h
    unfold category at h
    split at h
    · split at h
      · next d hd =>
        obtain rfl : d = c := by simpa using h
        rw [Category.ofExactName?_eq_some_iff.mp hd, Json.ofString]
      · exact absurd h mismatch_ne_valid
    · exact absurd h mismatch_ne_valid
  · rintro rfl
    have hName : Category.ofExactName? (Text.ofString c.name) = some c :=
      Category.ofExactName?_eq_some_iff.mpr rfl
    simp [category, Json.ofString, hName]

theorem timestamp_roundTrips :
    RoundTrips timestamp (fun t => some (.text t)) (fun t => (Timestamp.parse t).isSome = true) :=
  .of_iff fun _ _ _ => timestamp_eq_valid_iff

theorem category_roundTrips :
    RoundTrips category (fun c => some (.ofString c.name)) (fun _ => True) :=
  .of_iff fun _ _ _ => by rw [category_eq_valid_iff, and_true]

/-- What accepted arguments have in common. -/
structure IsSound (a : Args) : Prop where
  rangeStart : ∀ t ∈ a.rangeStart, (Timestamp.parse t).isSome = true
  rangeEnd : ∀ t ∈ a.rangeEnd, (Timestamp.parse t).isSome = true
  patterns : ∀ raw ∈ a.patterns, raw.IsShaped
  keep : 1 ≤ a.keep

/-- The outcome of a field that a request may have; `own` counts where it has not. -/
def taken (name : String) (check : Check α) (own : α) (path : Path) (given : Json.Fields) :
    Checked α :=
  match given.get? (Text.ofString name) with
  | some j => check (path ++ [.field (Text.ofString name)]) (some j)
  | none => .valid own

/-- Arguments put together from the outcomes of their fields. -/
def assembled (rangeStart rangeEnd : Checked (Option Text)) (reportUnknown : Checked Bool)
    (excluded : Checked (List Category)) (patterns : Checked (List RawRule)) (group : Checked Bool)
    (keep interval : Checked Nat) : Checked Args :=
  (((((((rangeStart.both rangeEnd).both reportUnknown).both excluded).both patterns).both
    group).both keep).both interval).map
      fun (((((((rangeStart, rangeEnd), reportUnknown), excluded), patterns), group), keep),
          interval) =>
        ⟨rangeStart, rangeEnd, reportUnknown, excluded, patterns, group, keep, interval⟩

theorem assembled_eq_valid_iff {rangeStart rangeEnd : Checked (Option Text)}
    {reportUnknown : Checked Bool} {excluded : Checked (List Category)}
    {patterns : Checked (List RawRule)} {group : Checked Bool} {keep interval : Checked Nat}
    {a : Args} :
    assembled rangeStart rangeEnd reportUnknown excluded patterns group keep interval = .valid a ↔
      rangeStart = .valid a.rangeStart ∧ rangeEnd = .valid a.rangeEnd ∧
      reportUnknown = .valid a.reportUnknown ∧ excluded = .valid a.excluded ∧
      patterns = .valid a.patterns ∧ group = .valid a.group ∧ keep = .valid a.keep ∧
      interval = .valid a.interval := by
  rw [assembled, map_eq_valid_iff]
  simp only [Prod.exists, both_eq_valid_iff]
  constructor
  · rintro ⟨_, _, _, _, _, _, _, _, h, rfl⟩
    obtain ⟨⟨⟨⟨⟨⟨⟨hStart, hEnd⟩, hUnknown⟩, hExcluded⟩, hPatterns⟩, hGroup⟩, hKeep⟩, hInterval⟩ := h
    exact ⟨hStart, hEnd, hUnknown, hExcluded, hPatterns, hGroup, hKeep, hInterval⟩
  · rintro ⟨hStart, hEnd, hUnknown, hExcluded, hPatterns, hGroup, hKeep, hInterval⟩
    exact ⟨_, _, _, _, _, _, _, _,
      ⟨⟨⟨⟨⟨⟨⟨hStart, hEnd⟩, hUnknown⟩, hExcluded⟩, hPatterns⟩, hGroup⟩, hKeep⟩, hInterval⟩, rfl⟩

/-- The fields of a request laid over arguments, each settled for itself. -/
def settled (a : Args) (path : Path) (given : Json.Fields) : Checked Args :=
  assembled (taken "analysis_range_start" (optional timestamp) a.rangeStart path given)
    (taken "analysis_range_end" (optional timestamp) a.rangeEnd path given)
    (taken "check_unknown_dmesg_errors" boolean a.reportUnknown path given)
    (taken "exclude_category" (listOf category) a.excluded path given)
    (taken "custom_error_patterns" (listOf rawRule) a.patterns path given)
    (taken "group" boolean a.group path given)
    (taken "num_timestamps" (natural 1 none) a.keep path given)
    (taken "interval_to_collapse_event" (natural 0 none) a.interval path given)

theorem field_overlay {check : Check α} {write : α → Option Json} {Sound : α → Prop}
    (h : RoundTrips check write Sound) {base given : Json.Fields} (hKeys : given.Distinct)
    {name : String} {own : α} (hOwn : base.get? (Text.ofString name) = write own)
    (hSound : Sound own) :
    field name check path (base.overlay given) = taken name check own path given := by
  rw [field, Json.Fields.get?_overlay hKeys, taken]
  split
  · next j hGiven => rw [hGiven, Option.some_or]
  · next hGiven =>
    rw [hGiven, Option.none_or, hOwn]
    exact h.accepts hSound _

theorem field_overlay_default {check : Check α} {write : α → Json} {Sound : α → Prop}
    (h : RoundTrips check (fun a => some (write a)) Sound) {default : α} {base given : Json.Fields}
    (hKeys : given.Distinct) {name : String} {own : α}
    (hOwn : base.get? (Text.ofString name) = some (write own)) (hSound : Sound own) :
    field name (withDefault default check) path (base.overlay given) =
      taken name check own path given := by
  rw [field, Json.Fields.get?_overlay hKeys, taken]
  split
  · next j hGiven =>
    rw [hGiven]
    rfl
  · next hGiven =>
    rw [hGiven, Option.none_or, hOwn]
    exact h.accepts hSound _

/-- The fields of written arguments, by name. -/
def entries (a : Args) : List (String × Option Json) :=
  [("analysis_range_start", a.rangeStart.map .text), ("analysis_range_end", a.rangeEnd.map .text),
    ("check_unknown_dmesg_errors", some (.bool a.reportUnknown)),
    ("exclude_category", some (.list (a.excluded.map fun c => .ofString c.name))),
    ("custom_error_patterns", some (.list (a.patterns.map (·.toJson)))),
    ("group", some (.bool a.group)), ("num_timestamps", some (.ofNat a.keep)),
    ("interval_to_collapse_event", some (.ofNat a.interval))]

theorem get?_toFields (a : Args) (name : String) :
    a.toFields.get? (Text.ofString name) = (a.entries.lookup name).join := by
  have hNames : ["analysis_range_start", "analysis_range_end", "check_unknown_dmesg_errors",
    "exclude_category", "custom_error_patterns", "group", "num_timestamps",
    "interval_to_collapse_event"].Nodup := by decide
  exact Json.Fields.get?_ofEntries name hNames

/-- Nothing but the request and what is configured decides. -/
theorem ofFields_overlay {a : Args} (hSound : a.IsSound) {given : Json.Fields}
    (hKeys : given.Distinct) :
    ofFields path (a.toFields.overlay given) = a.settled path given := by
  have hStart : _ = a.rangeStart.map Json.text := a.get?_toFields "analysis_range_start"
  have hEnd : _ = a.rangeEnd.map Json.text := a.get?_toFields "analysis_range_end"
  have hUnknown : _ = some (Json.bool a.reportUnknown) :=
    a.get?_toFields "check_unknown_dmesg_errors"
  have hExcluded : _ = some (Json.list _) := a.get?_toFields "exclude_category"
  have hPatterns : _ = some (Json.list _) := a.get?_toFields "custom_error_patterns"
  have hGroup : _ = some (Json.bool a.group) := a.get?_toFields "group"
  have hKeep : _ = some (Json.ofNat a.keep) := a.get?_toFields "num_timestamps"
  have hInterval : _ = some (Json.ofNat a.interval) := a.get?_toFields "interval_to_collapse_event"
  rw [ofFields, settled, assembled,
    field_overlay timestamp_roundTrips.optional hKeys hStart hSound.rangeStart,
    field_overlay timestamp_roundTrips.optional hKeys hEnd hSound.rangeEnd,
    field_overlay_default boolean_roundTrips hKeys hUnknown trivial,
    field_overlay_default category_roundTrips.listOf hKeys hExcluded (fun _ _ => trivial),
    field_overlay_default rawRule_roundTrips.listOf hKeys hPatterns hSound.patterns,
    field_overlay_default boolean_roundTrips hKeys hGroup trivial,
    field_overlay_default (natural_roundTrips 1 none) hKeys hKeep ⟨hSound.keep, by simp⟩,
    field_overlay_default (natural_roundTrips 0 none) hKeys hInterval (within_zero _)]

theorem ofFields_eq_valid_iff {fs : Json.Fields} {a : Args} :
    ofFields path fs = .valid a ↔
      field "analysis_range_start" (optional timestamp) path fs = .valid a.rangeStart ∧
      field "analysis_range_end" (optional timestamp) path fs = .valid a.rangeEnd ∧
      field "check_unknown_dmesg_errors" (withDefault true boolean) path fs =
        .valid a.reportUnknown ∧
      field "exclude_category" (withDefault [] (listOf category)) path fs = .valid a.excluded ∧
      field "custom_error_patterns" (withDefault [] (listOf rawRule)) path fs = .valid a.patterns ∧
      field "group" (withDefault true boolean) path fs = .valid a.group ∧
      field "num_timestamps" (withDefault 3 (natural 1 none)) path fs = .valid a.keep ∧
      field "interval_to_collapse_event" (withDefault 60 (natural 0 none)) path fs =
        .valid a.interval :=
  assembled_eq_valid_iff

theorem check_eq_valid_iff {a : Args} :
    check path value = .valid a ↔ ∃ fs, value = some (.object fs) ∧ ofFields path fs = .valid a := by
  simp only [check, bind_eq_valid_iff, fields_eq_valid_iff]

theorem check_placeless : Placeless check where
  moved := by
    intro path other value a h
    obtain ⟨fs, rfl, h⟩ := check_eq_valid_iff.mp h
    obtain ⟨hStart, hEnd, hUnknown, hExcluded, hPatterns, hGroup, hKeep, hInterval⟩ :=
      ofFields_eq_valid_iff.mp h
    have hTimestamp : Placeless timestamp := .of_iff fun _ _ _ => timestamp_eq_valid_iff
    have hCategory : Placeless category := .of_iff fun _ _ _ => category_eq_valid_iff
    refine check_eq_valid_iff.mpr ⟨fs, rfl, ofFields_eq_valid_iff.mpr ?_⟩
    exact ⟨hTimestamp.optional.moved hStart, hTimestamp.optional.moved hEnd,
      (boolean_placeless.withDefault true).moved hUnknown,
      (hCategory.listOf.withDefault []).moved hExcluded,
      (rawRule_placeless.listOf.withDefault []).moved hPatterns,
      (boolean_placeless.withDefault true).moved hGroup,
      ((natural_placeless 1 none).withDefault 3).moved hKeep,
      ((natural_placeless 0 none).withDefault 60).moved hInterval⟩

/-- Accepted arguments are sound, and sound arguments are accepted as they are written. -/
theorem check_roundTrips : RoundTrips check (fun a => some a.toJson) IsSound where
  sound := by
    intro path value a h
    obtain ⟨fs, -, h⟩ := bind_eq_valid_iff.mp h
    obtain ⟨hStart, hEnd, -, -, hPatterns, -, hKeep, -⟩ := ofFields_eq_valid_iff.mp h
    have hNone : ∀ raw ∈ ([] : List RawRule), raw.IsShaped := by simp
    exact ⟨timestamp_roundTrips.optional.sound hStart, timestamp_roundTrips.optional.sound hEnd,
      (rawRule_roundTrips.listOf.withDefault hNone).sound hPatterns,
      ((natural_roundTrips 1 none).withDefault ⟨by decide, by simp⟩).sound hKeep |>.1⟩
  accepts := by
    intro a hSound path
    calc check path (some a.toJson) = ofFields path (a.toFields.overlay []) := rfl
      _ = a.settled path [] := ofFields_overlay hSound Json.Fields.distinct_nil
      _ = .valid a := rfl

/-- What the arguments `e` are when `given` is laid over `a`. -/
structure LaidOver (a : Args) (given : Json.Fields) (e : Args) : Prop where
  rangeStart : taken "analysis_range_start" (optional timestamp) a.rangeStart [] given =
    .valid e.rangeStart
  rangeEnd : taken "analysis_range_end" (optional timestamp) a.rangeEnd [] given = .valid e.rangeEnd
  reportUnknown : taken "check_unknown_dmesg_errors" boolean a.reportUnknown [] given =
    .valid e.reportUnknown
  excluded : taken "exclude_category" (listOf category) a.excluded [] given = .valid e.excluded
  patterns : taken "custom_error_patterns" (listOf rawRule) a.patterns [] given = .valid e.patterns
  group : taken "group" boolean a.group [] given = .valid e.group
  keep : taken "num_timestamps" (natural 1 none) a.keep [] given = .valid e.keep
  interval : taken "interval_to_collapse_event" (natural 0 none) a.interval [] given =
    .valid e.interval

theorem settled_eq_valid_iff {a e : Args} {given : Json.Fields} :
    a.settled [] given = .valid e ↔ LaidOver a given e := by
  rw [settled, assembled_eq_valid_iff]
  constructor
  · rintro ⟨hStart, hEnd, hUnknown, hExcluded, hPatterns, hGroup, hKeep, hInterval⟩
    exact ⟨hStart, hEnd, hUnknown, hExcluded, hPatterns, hGroup, hKeep, hInterval⟩
  · rintro ⟨hStart, hEnd, hUnknown, hExcluded, hPatterns, hGroup, hKeep, hInterval⟩
    exact ⟨hStart, hEnd, hUnknown, hExcluded, hPatterns, hGroup, hKeep, hInterval⟩

/-- A check without the value that it gives. -/
def shape (check : Check α) : Check Unit := fun path value => (check path value).map fun _ => ()

/-- The known fields and what is asked of each where it is present. -/
def known : List (String × Check Unit) :=
  [("analysis_range_start", shape timestamp), ("analysis_range_end", shape timestamp),
    ("check_unknown_dmesg_errors", shape boolean), ("exclude_category", shape (listOf category)),
    ("custom_error_patterns", shape (listOf rawRule)), ("group", shape boolean),
    ("num_timestamps", shape (natural 1 none)),
    ("interval_to_collapse_event", shape (natural 0 none))]

/-- What is wrong with one field of a request, if it is there. -/
def faultsOf (given : Json.Fields) (entry : String × Check Unit) : List Mismatch :=
  match given.get? (Text.ofString entry.1) with
  | some j => (entry.2 [.field (Text.ofString entry.1)] (some j)).mismatches
  | none => []

def Accepted (given : Json.Fields) (entry : String × Check Unit) : Prop :=
  ∀ j, given.get? (Text.ofString entry.1) = some j →
    entry.2 [.field (Text.ofString entry.1)] (some j) = .valid ()

section Fieldwise

variable {name : String} {check : Check α} {own : α} {given other : Json.Fields}

theorem shape_optional (j : Json) :
    shape (optional check) path (some j) = shape check path (some j) := by
  simp only [shape, Schema.optional]
  cases check path (some j) <;> rfl

theorem mismatches_taken :
    (taken name check own [] given).mismatches = faultsOf given (name, shape check) := by
  rw [taken, faultsOf]
  split
  · next j hGiven => simp only [hGiven, shape, mismatches_map, List.nil_append]
  · next hGiven =>
    rw [hGiven]
    rfl

theorem faultsOf_optional :
    faultsOf given (name, shape (optional check)) = faultsOf given (name, shape check) := by
  simp only [faultsOf, shape_optional]

theorem exists_taken_iff :
    (∃ a, taken name check own [] given = .valid a) ↔ Accepted given (name, shape check) := by
  cases hGiven : given.get? (Text.ofString name) with
  | none => simp [taken, Accepted, hGiven]
  | some j => simp [taken, Accepted, hGiven, shape, map_eq_valid_iff]

theorem exists_taken_optional_iff {own : Option α} :
    (∃ a, taken name (optional check) own [] given = .valid a) ↔
      Accepted given (name, shape check) := by
  rw [exists_taken_iff, Accepted, Accepted]
  simp only [shape_optional]

end Fieldwise

theorem exists_settled_iff {a : Args} {given : Json.Fields} :
    (∃ e, a.settled [] given = .valid e) ↔ ∀ entry ∈ known, Accepted given entry := by
  simp only [settled_eq_valid_iff, known, List.forall_mem_cons, List.not_mem_nil]
  constructor
  · rintro ⟨e, h⟩
    exact ⟨exists_taken_optional_iff.mp ⟨_, h.rangeStart⟩,
      exists_taken_optional_iff.mp ⟨_, h.rangeEnd⟩, exists_taken_iff.mp ⟨_, h.reportUnknown⟩,
      exists_taken_iff.mp ⟨_, h.excluded⟩, exists_taken_iff.mp ⟨_, h.patterns⟩,
      exists_taken_iff.mp ⟨_, h.group⟩, exists_taken_iff.mp ⟨_, h.keep⟩,
      exists_taken_iff.mp ⟨_, h.interval⟩, by simp⟩
  · rintro ⟨hStart, hEnd, hUnknown, hExcluded, hPatterns, hGroup, hKeep, hInterval, -⟩
    obtain ⟨rangeStart, hStart⟩ := exists_taken_optional_iff.mpr hStart
    obtain ⟨rangeEnd, hEnd⟩ := exists_taken_optional_iff.mpr hEnd
    obtain ⟨reportUnknown, hUnknown⟩ := exists_taken_iff.mpr hUnknown
    obtain ⟨excluded, hExcluded⟩ := exists_taken_iff.mpr hExcluded
    obtain ⟨patterns, hPatterns⟩ := exists_taken_iff.mpr hPatterns
    obtain ⟨group, hGroup⟩ := exists_taken_iff.mpr hGroup
    obtain ⟨keep, hKeep⟩ := exists_taken_iff.mpr hKeep
    obtain ⟨interval, hInterval⟩ := exists_taken_iff.mpr hInterval
    exact ⟨⟨rangeStart, rangeEnd, reportUnknown, excluded, patterns, group, keep, interval⟩,
      hStart, hEnd, hUnknown, hExcluded, hPatterns, hGroup, hKeep, hInterval⟩

theorem settled_congr {a : Args} {given other : Json.Fields}
    (h : ∀ entry ∈ known, other.get? (Text.ofString entry.1) = given.get? (Text.ofString entry.1)) :
    a.settled [] other = a.settled [] given := by
  simp only [known, List.forall_mem_cons] at h
  obtain ⟨hStart, hEnd, hUnknown, hExcluded, hPatterns, hGroup, hKeep, hInterval, -⟩ := h
  simp only [settled, taken, hStart, hEnd, hUnknown, hExcluded, hPatterns, hGroup, hKeep, hInterval]

theorem overlay_eq_settled {a : Args} (hSound : a.IsSound) {given : Json.Fields}
    (hKeys : given.Distinct) : a.overlay given = a.settled [] given :=
  ofFields_overlay hSound hKeys

/-- Laid over accepted arguments, a request is accepted exactly when each known field that it has is,
and is faulted for its own fields only. Every field is then the one of the request if it is there, and
the configured one if not; other fields of the request are without effect. -/
theorem overlay_fieldwise {a : Args} (hAccepted : check path value = .valid a) {given : Json.Fields}
    (hKeys : given.Distinct) :
    (∀ e, a.overlay given = .valid e ↔ LaidOver a given e) ∧
    ((∃ e, a.overlay given = .valid e) ↔ ∀ entry ∈ known, Accepted given entry) ∧
    (a.overlay given).mismatches = known.flatMap (faultsOf given) ∧
    (∀ other : Json.Fields, other.Distinct → (∀ entry ∈ known,
        other.get? (Text.ofString entry.1) = given.get? (Text.ofString entry.1)) →
      a.overlay other = a.overlay given) ∧
    a.overlay [] = .valid a := by
  have hSettled {other : Json.Fields} (hOther : other.Distinct) :
      a.overlay other = a.settled [] other :=
    overlay_eq_settled (check_roundTrips.sound hAccepted) hOther
  rw [hSettled hKeys]
  refine ⟨fun e => settled_eq_valid_iff, exists_settled_iff, ?_, ?_, ?_⟩
  · simp only [settled, assembled, mismatches_map, mismatches_both, mismatches_taken,
      faultsOf_optional, known, List.flatMap_cons, List.flatMap_nil, List.append_nil,
      List.append_assoc]
  · intro other hOther hSame
    rw [hSettled hOther]
    exact settled_congr hSame
  · exact hSettled Json.Fields.distinct_nil

def configured : Args := { Args.default with excluded := [.os], keep := 5 }

/-- A known field and an unknown one. -/
def fewerTimestamps : Json.Fields :=
  [(Text.ofString "num_timestamps", .ofNat 2), (Text.ofString "colour", .null)]

/-- The request settles the number of timestamps, and the excluded category stays as configured. -/
theorem overlay_fieldwise_fewerTimestamps :
    check [] (some configured.toJson) = .valid configured ∧ fewerTimestamps.Distinct ∧
      configured.overlay fewerTimestamps = .valid { configured with keep := 2 } := by
  have hSound : configured.IsSound := ⟨by simp [configured, Args.default],
    by simp [configured, Args.default], by simp [configured, Args.default], by decide⟩
  have hAccepted := check_roundTrips.accepts hSound []
  have hKeys : fewerTimestamps.Distinct := by
    rw [Json.Fields.Distinct]
    decide +kernel
  refine ⟨hAccepted, hKeys, ((overlay_fieldwise hAccepted hKeys).1 _).mpr ?_⟩
  exact ⟨rfl, rfl, rfl, rfl, rfl, rfl, natural_eq_valid_iff.mpr ⟨rfl, by decide, by simp⟩, rfl⟩

end Dmesg.Args
end LogTriage
