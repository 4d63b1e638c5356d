import LogTriage.Proofs.Dmesg.Args
import LogTriage.Service

/-! # What routes are given

A body that is an object has one field to a key. Each route takes the fields that it knows from its body,
every one of them for itself.
-/

namespace LogTriage.Service

set_option autoImplicit false

open Schema Schema.Checked

variable {e : Engine} {r : Request} {fs : Json.Fields}

/-- A request that a route gets with an object for its body. -/
structure Request.Brings (r : Request) (route : Route) (fs : Json.Fields) : Prop where
  body : readBody r = .ok (some (.object fs))
  route : route? r = some route

theorem respond_analyze {defaults : Dmesg.Args}
    (h : r.Brings .analyze fs) : respond defaults r e = analyze e (some (.object fs)) := by
  rw [respond, h.body]
  simp only [h.route]

theorem respond_dmesg {defaults : Dmesg.Args} (h : r.Brings .dmesg fs) :
    respond defaults r e = dmesg e defaults (some (.object fs)) := by
  rw [respond, h.body]
  simp only [h.route]

/-- A value that is not a text has been parsed. -/
theorem readBody_cases {j : Json} (h : readBody r = .ok (some j)) :
    (∃ t, j = .text t) ∨ ∃ t, parseBody? t = some j := by
  unfold readBody at h
  by_cases hBodiless : (bodiless.any fun m => Text.ofString m == r.method) = true
  · rw [if_pos hBodiless] at h
    cases h
  · rw [if_neg hBodiless] at h
    cases hType : r.contentType with
    | none =>
      rw [hType] at h
      cases h
    | some contentType =>
      simp only [hType] at h
      cases hMedia : media contentType with
      | plain =>
        simp only [hMedia] at h
        split_ifs at h
        cases h
        exact .inl ⟨_, rfl⟩
      | json =>
        simp only [hMedia] at h
        split_ifs at h
        cases hParse : parseBody? (r.body.getD []) with
        | none =>
          rw [hParse] at h
          cases h
        | some parsed =>
          rw [hParse] at h
          cases h
          exact .inr ⟨_, hParse⟩
      | other =>
        simp only [hMedia] at h
        split_ifs at h
        cases h

theorem readBody_of_parse {contentType t : Text} {j : Json}
    (hMethod : (bodiless.any fun m => Text.ofString m == r.method) = false)
    (hType : r.contentType = some contentType) (hMedia : media contentType = .json)
    (hBody : r.body = some t) (hSize : Text.Utf8.byteCount t ≤ bodyLimit)
    (hParse : parseBody? t = some j) : readBody r = .ok (some j) := by
  have hSome : t.isEmpty = false := by
    cases t with
    | nil => cases hParse
    | cons u rest => rfl
  rw [readBody, hMethod]
  simp only [hType, hMedia, hBody, Option.getD_some, not_lt_of_ge hSize, hSome, hParse,
    Bool.false_eq_true, if_false]

theorem Request.Brings.wellFormed {route : Route} (h : r.Brings route fs) :
    Json.WellFormed (.object fs) := by
  rcases readBody_cases h.body with ⟨t, hText⟩ | ⟨t, hParse⟩
  · cases hText
  · obtain ⟨hParse, -⟩ := Option.filter_eq_some_iff.mp hParse
    exact Json.parse?_wellFormed hParse

/-- The fields beside the rules, which make up the rest of a body. -/
structure AnalyzeBody.Surrounds (fs : Json.Fields) (b : AnalyzeBody) : Prop where
  content : field "content" (text 0 none) [] fs = .valid b.content
  source : field "source" (text 1 (some 255)) [] fs = .valid b.source
  group : field "group" (withDefault true boolean) [] fs = .valid b.group
  keep : field "num_timestamps" (withDefault 3 (natural 1 none)) [] fs = .valid b.keep
  interval : field "collapse_interval_seconds" (withDefault 60 (natural 0 none)) [] fs =
    .valid b.interval

theorem AnalyzeBody.check_eq_valid_iff {b : AnalyzeBody} :
    AnalyzeBody.check [] (some (.object fs)) = .valid b ↔ Surrounds fs b ∧
      field "rules" (nonEmptyList "rule" rawRule) [] fs = .valid b.rules := by
  rw [check, bind_eq_valid_iff]
  simp only [fields_eq_valid_iff, map_eq_valid_iff, Prod.exists, both_eq_valid_iff]
  constructor
  · rintro ⟨_, hFields, content, source, rules, group, keep, interval, h, rfl⟩
    obtain rfl := Json.object.inj (Option.some.inj hFields)
    obtain ⟨⟨⟨⟨⟨hContent, hSource⟩, hRules⟩, hGroup⟩, hKeep⟩, hInterval⟩ := h
    exact ⟨⟨hContent, hSource, hGroup, hKeep, hInterval⟩, hRules⟩
  · rintro ⟨⟨hContent, hSource, hGroup, hKeep, hInterval⟩, hRules⟩
    exact ⟨fs, rfl, _, _, _, _, _, _,
      ⟨⟨⟨⟨⟨hContent, hSource⟩, hRules⟩, hGroup⟩, hKeep⟩, hInterval⟩, rfl⟩

/-- A request for a report on a content. Without arguments it is as if it had an empty object of them. -/
structure Request.Asks (r : Request) (content : Text) (given : Json.Fields) : Prop where
  brought : ∃ fs, r.Brings .dmesg fs ∧
    fs.get? (Text.ofString "content") = some (.text content) ∧
    (fs.get? (Text.ofString "args") = some (.object given) ∨
      fs.get? (Text.ofString "args") = none ∧ given = [])

theorem DmesgBody.check_eq_valid {content : Text} {given : Json.Fields}
    (hContent : fs.get? (Text.ofString "content") = some (.text content))
    (hArgs : fs.get? (Text.ofString "args") = some (.object given) ∨
      fs.get? (Text.ofString "args") = none ∧ given = []) :
    DmesgBody.check [] (some (.object fs)) =
      .valid ⟨content, given.filter fun entry => entry.1 ≠ prototypeKey⟩ := by
  refine bind_eq_valid_iff.mpr ⟨fs, fields_eq_valid_iff.mpr rfl, ?_⟩
  refine map_eq_valid_iff.mpr ⟨(content, _), both_eq_valid_iff.mpr ⟨?_, ?_⟩, rfl⟩
  · rw [field, hContent]
    exact text_eq_valid_iff.mpr ⟨rfl, within_zero _⟩
  · rw [field]
    rcases hArgs with hGiven | ⟨hNone, rfl⟩
    · rw [hGiven]
      rfl
    · rw [hNone]
      rfl

end LogTriage.Service
