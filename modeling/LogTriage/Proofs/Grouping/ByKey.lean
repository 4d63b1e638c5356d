import LogTriage.Grouping
import LogTriage.Proofs.Timestamp.Selection
import Mathlib.Data.List.Induction
import Mathlib.Data.List.Nodup

/-! # Groups key by key

A grouping is made by calls, each of which records one occurrence. Looked up under a key it gives the
group that the calls of this key make by themselves, whatever calls of other keys stand between them,
and its keys are those of the calls in order of first occurrence.
-/

namespace LogTriage

set_option autoImplicit false

namespace Group

/-- A further occurrence counts, and its timestamp takes its turn in the walk. -/
theorem add_eq (interval : Number) (g : Group) (o : Occurrence) :
    (g.add interval o).1 =
      { g with
        count := g.count + 1
        timestamps := Timestamp.selectFrom interval g.timestamps o.timestamp.toList } := by
  rw [add]
  cases o.timestamp with
  | none => rfl
  | some t =>
    simp only [Option.toList_some, Timestamp.selectFrom_singleton]
    by_cases hAdmits : Timestamp.Admissible interval g.timestamps t
    · rw [if_pos hAdmits, Timestamp.isRedundant_eq_false_iff.mpr hAdmits]
      rfl
    · have hRedundant : (Timestamp.isRedundant interval t g.timestamps).1 = true := by
        rw [← Bool.not_eq_false, Timestamp.isRedundant_eq_false_iff]
        exact hAdmits
      rw [if_neg hAdmits, hRedundant]
      rfl

theorem add_key (interval : Number) (g : Group) (o : Occurrence) :
    (g.add interval o).1.key = g.key := by
  rw [add_eq]
  rfl

end Group

namespace Grouping

/-- One call: an occurrence and the source that it is reported under. -/
structure Call where
  source : Text
  occurrence : Occurrence

def Call.key (c : Call) : Text := c.occurrence.key

def ofCalls (interval : Number) (calls : List Call) : Grouping :=
  calls.foldl (fun groups c => (record interval c.source c.occurrence groups).groups) []

/-- The group that calls of one key make. -/
def groupOf (interval : Number) : List Call → Option Group
  | [] => none
  | c :: rest =>
    some (rest.foldl (fun g d => (g.add interval d.occurrence).1) (Group.first c.source c.occurrence))

def lookup (k : Text) (groups : Grouping) : Option Group := groups.find? (·.key = k)

def keys (groups : Grouping) : List Text := groups.map Group.key

variable (interval : Number)

/-! ## One call -/

theorem lookup_record_self (source : Text) (o : Occurrence) (groups : Grouping) :
    lookup o.key (record interval source o groups).groups =
      some (((lookup o.key groups).map fun g => (g.add interval o).1).getD
        (Group.first source o)) := by
  induction groups with
  | nil =>
    have hKey : (Group.first source o).key = o.key := rfl
    simp [record, lookup, hKey]
  | cons g rest ih =>
    rw [record]
    split_ifs with hKey
    · have hAdded : (g.add interval o).1.key = o.key := (g.add_key interval o).trans hKey
      simp [lookup, hKey, hAdded]
    · simpa [lookup, hKey] using ih

theorem lookup_record_of_ne {source : Text} {o : Occurrence} {k : Text} (h : k ≠ o.key)
    (groups : Grouping) :
    lookup k (record interval source o groups).groups = lookup k groups := by
  induction groups with
  | nil =>
    have hKey : (Group.first source o).key = o.key := rfl
    simp [record, lookup, hKey, h.symm]
  | cons g rest ih =>
    rw [record]
    split_ifs with hKey
    · have hAdded : (g.add interval o).1.key = o.key := (g.add_key interval o).trans hKey
      simp [lookup, hKey, hAdded, h.symm]
    · simp only [lookup, List.find?_cons] at ih ⊢
      rw [ih]

theorem keys_record (source : Text) (o : Occurrence) (groups : Grouping) :
    keys (record interval source o groups).groups =
      if o.key ∈ keys groups then keys groups else keys groups ++ [o.key] := by
  induction groups with
  | nil => rfl
  | cons g rest ih =>
    rw [record]
    split_ifs with hKey hMem hMem
    · simp [keys, g.add_key interval o]
    · simp [keys, hKey] at hMem
    · have hRest : o.key ∈ keys rest := by
        simpa [keys, Ne.symm hKey] using hMem
      rw [if_pos hRest] at ih
      simpa [keys] using ih
    · have hRest : o.key ∉ keys rest := fun hRest => hMem (List.mem_cons_of_mem _ hRest)
      rw [if_neg hRest] at ih
      simpa [keys] using ih

/-! ## All calls -/

theorem ofCalls_concat (calls : List Call) (c : Call) :
    ofCalls interval (calls ++ [c]) =
      (record interval c.source c.occurrence (ofCalls interval calls)).groups := by
  rw [ofCalls, List.foldl_append]
  rfl

theorem groupOf_concat (calls : List Call) (c : Call) :
    groupOf interval (calls ++ [c]) =
      some (((groupOf interval calls).map fun g => (g.add interval c.occurrence).1).getD
        (Group.first c.source c.occurrence)) := by
  cases calls with
  | nil => rfl
  | cons d rest => simp [groupOf, List.foldl_append]

theorem lookup_ofCalls (calls : List Call) (k : Text) :
    lookup k (ofCalls interval calls) = groupOf interval (calls.filter (·.key = k)) := by
  -- The last call is split off, since it is the one that `record` has just been given.
  induction calls using List.reverseRecOn with
  | nil => rfl
  | append_singleton calls c ih =>
    rw [ofCalls_concat, List.filter_append]
    by_cases hKey : c.key = k
    · subst hKey
      rw [List.filter_cons_of_pos (by simp), List.filter_nil, groupOf_concat, ← ih]
      exact lookup_record_self interval c.source c.occurrence _
    · rw [List.filter_cons_of_neg (by simpa using hKey), List.filter_nil, List.append_nil, ← ih]
      exact lookup_record_of_ne interval (Ne.symm hKey) _

theorem eraseDups_concat {α : Type} [BEq α] [LawfulBEq α] (l : List α) (a : α) :
    (l ++ [a]).eraseDups = if a ∈ l then l.eraseDups else l.eraseDups ++ [a] := by
  rw [List.eraseDups_append]
  split_ifs with h <;> simp [List.removeAll, h, List.eraseDups_cons]

theorem keys_ofCalls (calls : List Call) :
    keys (ofCalls interval calls) = (calls.map Call.key).eraseDups := by
  induction calls using List.reverseRecOn with
  | nil => rfl
  | append_singleton calls c ih =>
    rw [ofCalls_concat, keys_record, ih, List.map_append, List.map_singleton, eraseDups_concat]
    simp only [List.mem_eraseDups]
    rfl

theorem keys_ofCalls_nodup (calls : List Call) : (keys (ofCalls interval calls)).Nodup := by
  induction calls using List.reverseRecOn with
  | nil => exact .nil
  | append_singleton calls c ih =>
    rw [ofCalls_concat, keys_record]
    split_ifs with hMem
    · exact ih
    · exact ih.append (List.nodup_singleton _) (List.disjoint_singleton.mpr hMem)

theorem lookup_eq_some_of_mem {groups : Grouping} (hNodup : (keys groups).Nodup) {g : Group}
    (h : g ∈ groups) : lookup g.key groups = some g := by
  induction groups with
  | nil => simp at h
  | cons d rest ih =>
    obtain ⟨hNotMem, hNodup⟩ := List.nodup_cons.mp hNodup
    rcases List.mem_cons.mp h with rfl | h
    · simp [lookup]
    · have hNe : d.key ≠ g.key := fun hEq => hNotMem (hEq ▸ List.mem_map_of_mem h)
      simpa [lookup, hNe] using ih hNodup h

theorem groupOf_of_mem {calls : List Call} {g : Group} (h : g ∈ ofCalls interval calls) :
    groupOf interval (calls.filter (·.key = g.key)) = some g := by
  rw [← lookup_ofCalls]
  exact lookup_eq_some_of_mem (keys_ofCalls_nodup interval calls) h

/-- The first call of a group settles all but its count and its timestamps. -/
theorem groupOf_eq (c : Call) (rest : List Call) :
    groupOf interval (c :: rest) =
      some {
        rule := c.occurrence.rule
        content := c.occurrence.content
        source := c.source
        count := (c :: rest).length
        timestamps := Timestamp.select interval
          ((c :: rest).flatMap (·.occurrence.timestamp.toList)) } := by
  induction rest using List.reverseRecOn with
  | nil =>
    cases hStamp : c.occurrence.timestamp <;>
      simp [groupOf, Group.first, hStamp, Timestamp.select, Timestamp.selectFrom]
  | append_singleton rest d ih =>
    have hWalk : Timestamp.select interval
          ((c :: rest ++ [d]).flatMap (·.occurrence.timestamp.toList)) =
        Timestamp.selectFrom interval
          (Timestamp.select interval ((c :: rest).flatMap (·.occurrence.timestamp.toList)))
          d.occurrence.timestamp.toList := by
      rw [List.flatMap_append, Timestamp.select, Timestamp.selectFrom_append, List.flatMap_singleton]
      rfl
    rw [← List.cons_append, groupOf_concat, ih, hWalk, Option.map_some, Option.getD_some,
      Group.add_eq]
    simp

theorem sum_count_record (source : Text) (o : Occurrence) (groups : Grouping) :
    ((record interval source o groups).groups.map (·.count)).sum =
      (groups.map (·.count)).sum + 1 := by
  induction groups with
  | nil => rfl
  | cons g rest ih =>
    rw [record]
    split_ifs with hKey
    · have hCount : (g.add interval o).1.count = g.count + 1 := by rw [Group.add_eq]
      simp only [List.map_cons, List.sum_cons, hCount]
      omega
    · simp only [List.map_cons, List.sum_cons, ih]
      omega

theorem sum_count_ofCalls (calls : List Call) :
    ((ofCalls interval calls).map (·.count)).sum = calls.length := by
  induction calls using List.reverseRecOn with
  | nil => rfl
  | append_singleton calls c ih =>
    rw [ofCalls_concat, sum_count_record, ih, List.length_append, List.length_singleton]

/-! ## The timestamps of a key -/

def stampsOf (k : Text) (calls : List Call) : List Text :=
  (calls.filter (·.key = k)).filterMap (·.occurrence.timestamp)

def recorded (k : Text) (groups : Grouping) : List Text :=
  ((lookup k groups).map (·.timestamps)).getD []

theorem recorded_of_mem {groups : Grouping} (hNodup : (keys groups).Nodup) {g : Group} (h : g ∈ groups) :
    recorded g.key groups = g.timestamps := by
  rw [recorded, lookup_eq_some_of_mem hNodup h, Option.map_some, Option.getD_some]

theorem recorded_ofCalls (calls : List Call) (k : Text) :
    recorded k (ofCalls interval calls) = Timestamp.select interval (stampsOf k calls) := by
  rw [recorded, lookup_ofCalls, stampsOf, List.filterMap_eq_flatMap_toList]
  cases calls.filter (·.key = k) with
  | nil => rfl
  | cons c rest => rw [groupOf_eq, Option.map_some, Option.getD_some]

theorem stampsOf_append (k : Text) (calls more : List Call) :
    stampsOf k (calls ++ more) = stampsOf k calls ++ stampsOf k more := by
  rw [stampsOf, List.filter_append, List.filterMap_append]
  rfl

theorem stampsOf_singleton {k t : Text} {c : Call} (hKey : c.key = k)
    (hStamp : c.occurrence.timestamp = some t) : stampsOf k [c] = [t] := by
  simp [stampsOf, hKey, hStamp]

/-- Whatever the calls, a key has the group that its own calls make, and its timestamps are those of the
greedy walk. They are a part of the timestamps recorded, in order and apart from each other. What is
listed stays, and a timestamp that a call does not add is near to one listed before. -/
theorem recorded_greedy (calls : List Call) (k : Text) :
    lookup k (ofCalls interval calls) = lookup k (ofCalls interval (calls.filter (·.key = k))) ∧
    recorded k (ofCalls interval calls) = Timestamp.select interval (stampsOf k calls) ∧
    (recorded k (ofCalls interval calls)).Sublist (stampsOf k calls) ∧
    Timestamp.Separated interval (recorded k (ofCalls interval calls)) ∧
    (∀ before after, calls = before ++ after →
      recorded k (ofCalls interval before) <+: recorded k (ofCalls interval calls)) ∧
    ∀ before c after t, calls = before ++ c :: after → c.key = k →
      c.occurrence.timestamp = some t →
      recorded k (ofCalls interval (before ++ [c])) = recorded k (ofCalls interval before) ++ [t] ∨
      recorded k (ofCalls interval (before ++ [c])) = recorded k (ofCalls interval before) ∧
        ∃ s ∈ recorded k (ofCalls interval before), Timestamp.Near interval t s := by
  refine ⟨?_, recorded_ofCalls interval calls k, ?_, ?_, ?_, ?_⟩
  · rw [lookup_ofCalls, lookup_ofCalls, List.filter_filter]
    simp only [Bool.and_self]
  · rw [recorded_ofCalls]
    exact Timestamp.select_sublist interval _
  · rw [recorded_ofCalls]
    exact Timestamp.select_separated interval _
  · rintro before after rfl
    rw [recorded_ofCalls, recorded_ofCalls, stampsOf_append]
    exact Timestamp.select_isPrefix interval _ _
  · rintro before c after t - hKey hStamp
    rw [recorded_ofCalls, recorded_ofCalls, stampsOf_append, stampsOf_singleton hKey hStamp]
    exact (Timestamp.select_concat interval (stampsOf k before) t).imp (·.2) (·.symm)

/-- A call of an empty rule. -/
def callOf (content stamp : String) : Call :=
  ⟨[], ⟨⟨[], {}, .empty, 0⟩, [], .unknown, .error⟩, .single (Text.ofString content),
    some (Text.ofString stamp)⟩

/-- Half a minute later and with a call of another key in between, a timestamp is not listed. -/
theorem recorded_greedy_interleaved :
    recorded (callOf "a" "").key (ofCalls (.finite 60)
        [callOf "a" "2024-10-07T10:17:15Z", callOf "b" "2024-10-07T10:17:40Z",
          callOf "a" "2024-10-07T10:17:45Z"]) =
      recorded (callOf "a" "").key (ofCalls (.finite 60)
        [callOf "a" "2024-10-07T10:17:15Z", callOf "b" "2024-10-07T10:17:40Z"]) ∧
    ∃ s ∈ recorded (callOf "a" "").key (ofCalls (.finite 60)
        [callOf "a" "2024-10-07T10:17:15Z", callOf "b" "2024-10-07T10:17:40Z"]),
      Timestamp.Near (.finite 60) (Text.ofString "2024-10-07T10:17:45Z") s := by
  have hStep := (recorded_greedy (.finite 60) [callOf "a" "2024-10-07T10:17:15Z",
    callOf "b" "2024-10-07T10:17:40Z", callOf "a" "2024-10-07T10:17:45Z"]
    (callOf "a" "").key).2.2.2.2.2
      [callOf "a" "2024-10-07T10:17:15Z", callOf "b" "2024-10-07T10:17:40Z"]
      (callOf "a" "2024-10-07T10:17:45Z") [] (Text.ofString "2024-10-07T10:17:45Z") rfl rfl rfl
  rcases hStep with hListed | hDropped
  · exact absurd hListed (by decide +kernel)
  · exact hDropped

theorem recordAll_groups (source : Text) (groups : Grouping) (os : List Occurrence) :
    (recordAll interval source groups os).1 =
      (os.map (Call.mk source)).foldl
        (fun groups c => (record interval c.source c.occurrence groups).groups) groups := by
  induction os generalizing groups with
  | nil => rfl
  | cons o rest ih => exact ih _

end Grouping
end LogTriage
