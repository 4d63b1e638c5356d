import LogTriage.Proofs.Analysis.GroupBy
import LogTriage.Proofs.Pattern.Content
import LogTriage.Proofs.Text.Quoted

/-! # The rule that classifies

Under any list of rules a grouped event takes its severity from the first rule that matches its content.
There is one event for every content that is matched, and it counts all matches of this content.
-/

namespace LogTriage

set_option autoImplicit false

namespace Rule

def Matches (content : Text) (r : Rule) (c : MatchContent) : Prop :=
  ∃ m ∈ r.pattern.scan content, m.content = c

/-- `q` is the first of the rules with a match of this content. -/
def IsFirst (rules : List Rule) (content : Text) (q : Rule) (c : MatchContent) : Prop :=
  ∃ before after, rules = before ++ q :: after ∧ (∀ d ∈ before, ¬Matches content d c) ∧
    Matches content q c

variable {content : Text} {q r : Rule} {c : MatchContent}

theorem IsFirst.matches_self {rules : List Rule} (h : IsFirst rules content q c) :
    Matches content q c := by
  obtain ⟨before, after, -, -, hMatch⟩ := h
  exact hMatch

theorem IsFirst.mem {rules : List Rule} (h : IsFirst rules content q c) : q ∈ rules := by
  obtain ⟨before, after, rfl, -⟩ := h
  exact List.mem_append_right before List.mem_cons_self

theorem IsFirst.eq_or_rel {R : Rule → Rule → Prop} {rules : List Rule}
    (h : IsFirst rules content q c) (hPairwise : rules.Pairwise R) (hr : r ∈ rules)
    (hMatch : Matches content r c) : q = r ∨ R q r := by
  obtain ⟨before, after, rfl, hBefore, -⟩ := h
  rcases List.mem_append.mp hr with hr | hr
  · exact absurd hMatch (hBefore r hr)
  · rcases List.mem_cons.mp hr with rfl | hr
    · exact .inl rfl
    · exact .inr ((List.pairwise_cons.mp (List.pairwise_append.mp hPairwise).2.1).1 r hr)

theorem matches_of_mem_ofRule {stamps : Pattern} {o : Occurrence}
    (h : o ∈ Occurrence.ofRule stamps content r) : o.rule = r ∧ Matches content r o.content := by
  obtain ⟨m, hm, rfl⟩ := List.mem_map.mp h
  exact ⟨rfl, m, hm, rfl⟩

theorem exists_mem_ofRule (stamps : Pattern) (h : Matches content r c) :
    ∃ o ∈ Occurrence.ofRule stamps content r, o.content = c := by
  obtain ⟨m, hm, rfl⟩ := h
  exact ⟨_, List.mem_map_of_mem hm, rfl⟩

theorem isFirst_of_find? {stamps : Pattern} {rules : List Rule} {o : Occurrence}
    (h : (Occurrence.all stamps content rules).find? (·.key = c.key) = some o) :
    o.content = c ∧ IsFirst rules content o.rule c := by
  have hKey : o.key = c.key := by simpa using List.find?_some h
  have hContent : o.content = c := MatchContent.key_injective hKey
  refine ⟨hContent, ?_⟩
  rw [Occurrence.all, List.find?_flatMap] at h
  obtain ⟨before, q, after, hRules, hFound, hBefore⟩ := List.findSome?_eq_some_iff.mp h
  obtain ⟨hRule, hMatch⟩ := matches_of_mem_ofRule (List.mem_of_find?_eq_some hFound)
  subst hRule
  refine ⟨before, after, hRules, fun d hd hMatchD => ?_, hContent ▸ hMatch⟩
  obtain ⟨x, hx, hxContent⟩ := exists_mem_ofRule stamps hMatchD
  have hNot := List.find?_eq_none.mp (hBefore d hd) x hx
  exact hNot (by simp [Occurrence.key, hxContent])

end Rule

namespace Analysis

open Rule

variable {limits : Limits} {group : Bool} {stamps : Pattern} {content source : Text}
  {rules : List Rule} {e : Event} {r : Rule} {c : MatchContent}

def contents (content : Text) (rules : List Rule) : List MatchContent :=
  rules.flatMap fun rule => (rule.pattern.scan content).map (·.content)

theorem map_content_all (stamps : Pattern) (content : Text) (rules : List Rule) :
    (Occurrence.all stamps content rules).map (·.content) = contents content rules := by
  simp only [Occurrence.all, Occurrence.ofRule, List.map_flatMap, List.map_map]
  rfl

theorem filter_key_all (stamps : Pattern) (content : Text) (rules : List Rule) (c : MatchContent) :
    ((Occurrence.all stamps content rules).filter (·.key = c.key)).length =
      (contents content rules).count c := by
  rw [← map_content_all stamps, List.count, List.countP_map, List.countP_eq_length_filter]
  congr 2
  funext o
  rw [Function.comp_apply, Bool.eq_iff_iff, beq_iff_eq, decide_eq_true_iff, Occurrence.key,
    MatchContent.key_injective.eq_iff]

theorem isFirst_of_mem_within
    (h : e ∈ (within limits true stamps content source rules).events) :
    ∃ q, IsFirst rules content q e.content ∧ e.severity = q.severity ∧
      e.count = (contents content rules).count e.content := by
  rw [events_within_grouped] at h
  obtain ⟨o, rest, hFilter, hEq⟩ := eq_of_mem_groupedEvents h
  have hFind : (Occurrence.all stamps content rules).find? (·.key = e.content.key) = some o := by
    rw [← List.head?_filter]
    exact congrArg List.head? hFilter
  refine ⟨o.rule, (isFirst_of_find? hFind).2, by rw [hEq], ?_⟩
  rw [← filter_key_all stamps]
  refine Eq.trans ?_ (congrArg List.length hFilter).symm
  rw [hEq]

theorem exists_mem_within (hr : r ∈ rules) (h : Matches content r c) :
    ∃ e ∈ (within limits true stamps content source rules).events, e.content = c := by
  obtain ⟨o, ho, rfl⟩ := exists_mem_ofRule stamps h
  have hKey : o.content.key ∈
      ((within limits true stamps content source rules).events).map Event.key := by
    rw [events_within_grouped, keys_groupedEvents, groupsOf, Grouping.keys_ofCalls,
      List.mem_eraseDups, List.map_map]
    exact List.mem_map.mpr ⟨o, List.mem_flatMap.mpr ⟨r, hr, ho⟩, rfl⟩
  obtain ⟨e, he, hEq⟩ := List.mem_map.mp hKey
  exact ⟨e, he, MatchContent.key_injective hEq⟩

theorem eq_of_content_eq {d : Event}
    (hd : d ∈ (within limits true stamps content source rules).events)
    (he : e ∈ (within limits true stamps content source rules).events)
    (h : d.content = e.content) : d = e := by
  have hNodup : ((within limits true stamps content source rules).events.map Event.key).Nodup := by
    rw [events_within_grouped, keys_groupedEvents]
    exact Grouping.keys_ofCalls_nodup _ _
  exact List.inj_on_of_nodup_map hNodup hd he (congrArg MatchContent.key h)

theorem mem_within_ungrouped_iff :
    e ∈ (within limits false stamps content source rules).events ↔
      ∃ r ∈ rules, ∃ o ∈ Occurrence.ofRule stamps content r, o.event source = e := by
  simp only [events_within_ungrouped, ungroupedEvents, Occurrence.all, List.mem_map, List.mem_flatMap]
  constructor
  · rintro ⟨o, ⟨r, hr, ho⟩, hEq⟩
    exact ⟨r, hr, o, ho, hEq⟩
  · rintro ⟨r, hr, o, ho, hEq⟩
    exact ⟨o, ⟨r, hr, ho⟩, hEq⟩

theorem severity_of_mem_within
    (h : e ∈ (within limits group stamps content source rules).events) :
    ∃ r ∈ rules, e.severity = r.severity ∧ Matches content r e.content := by
  cases group with
  | true =>
    obtain ⟨q, hFirst, hSeverity, -⟩ := isFirst_of_mem_within h
    exact ⟨q, hFirst.mem, hSeverity, hFirst.matches_self⟩
  | false =>
    obtain ⟨r, hr, o, ho, rfl⟩ := mem_within_ungrouped_iff.mp h
    obtain ⟨rfl, hMatch⟩ := matches_of_mem_ofRule ho
    exact ⟨o.rule, hr, rfl, hMatch⟩

theorem exists_mem_within_ungrouped (hr : r ∈ rules) (h : Matches content r c) :
    ∃ e ∈ (within limits false stamps content source rules).events,
      e.content = c ∧ e.severity = r.severity := by
  obtain ⟨o, ho, rfl⟩ := exists_mem_ofRule stamps h
  obtain ⟨rfl, -⟩ := matches_of_mem_ofRule ho
  exact ⟨o.event source, mem_within_ungrouped_iff.mpr ⟨o.rule, hr, o, ho, rfl⟩, rfl, rfl⟩

theorem events_within_eq_nil_iff :
    (within limits group stamps content source rules).events = [] ↔
      ∀ r ∈ rules, ∀ c, ¬Matches content r c := by
  rw [List.eq_nil_iff_forall_not_mem]
  constructor
  · intro h r hr c hMatch
    cases group with
    | true =>
      obtain ⟨e, he, -⟩ := exists_mem_within hr hMatch
      exact h e he
    | false =>
      obtain ⟨e, he, -⟩ := exists_mem_within_ungrouped hr hMatch
      exact h e he
  · intro h e he
    obtain ⟨r, hr, -, hMatch⟩ := severity_of_mem_within he
    exact h r hr _ hMatch

end Analysis

end LogTriage
