import LogTriage.Rule
import LogTriage.Schema

/-! # The shape of raw rules

Only the shape is looked at. Whether a rule compiles is settled where rules are composed.
-/

namespace LogTriage.Schema

set_option autoImplicit false

/-- A name that is not empty, or an integer. A text or number that is one of the two but for its size
or fraction is reported as such. -/
def severity : Check RawSeverity := fun path value =>
  match value with
  | some (.text t) => (text 1 none path (some (.text t))).map .name
  | some (.number .nan) => mismatch path (.noAlternative [.string, .number] .nan)
  | some (.number n) =>
    if n.int?.isSome then .valid (.rank n) else mismatch path (.wrongKind .integer .float)
  | other => mismatch path (.noAlternative [.string, .number] (Kind.of other))

def rawRule : Check RawRule := fun path value =>
  (fields path value).bind fun fs =>
    (((((field "regex" (text 1 none) path fs).both
      (field "message" (text 1 (some 2048)) path fs)).both
      (field "flags" (optional (text 0 none)) path fs)).both
      (field "category" (optional (text 1 none)) path fs)).both
      (field "severity" (optional severity) path fs)).map
        fun ((((regex, message), flags), category), severity) =>
          ⟨regex, message, flags, category, severity⟩

end LogTriage.Schema
