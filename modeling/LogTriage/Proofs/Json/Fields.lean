import LogTriage.Json.Reader
import LogTriage.Proofs.Text.CodePoints

/-! # Fields of objects

Fields laid over others are looked up first. The reader keeps one field to a key, at every depth of a
document, and the fields of a record are found by their names.
-/

namespace LogTriage.Json

set_option autoImplicit false

namespace Fields

/-- One field to a key. -/
def Distinct (fields : Fields) : Prop := (fields.map Prod.fst).Nodup

variable {fields base given : Fields} {key other : Text} {value : Json}

theorem distinct_nil : Distinct [] := List.nodup_nil

theorem get?_eq_none_iff : get? fields key = none ↔ key ∉ fields.map Prod.fst := by
  induction fields with
  | nil => simp
  | cons entry rest ih =>
    obtain ⟨k, v⟩ := entry
    rw [get?_cons]
    split_ifs with hKey
    · simp [hKey]
    · simp [hKey, ih]

theorem mem_of_get? (h : get? fields key = some value) : (key, value) ∈ fields := by
  induction fields with
  | nil => cases h
  | cons entry rest ih =>
    obtain ⟨k, v⟩ := entry
    rw [get?_cons] at h
    split_ifs at h with hKey
    · obtain rfl := Option.some.inj h
      rw [hKey]
      exact List.mem_cons_self
    · exact List.mem_cons_of_mem _ (ih h)

theorem mem_put {entry : Text × Json} (h : entry ∈ put fields key value) :
    entry = (key, value) ∨ entry ∈ fields := by
  induction fields with
  | nil => exact .inl (List.mem_singleton.mp h)
  | cons first rest ih =>
    obtain ⟨k, v⟩ := first
    rw [put] at h
    split_ifs at h with hKey
    · rcases List.mem_cons.mp h with hFirst | hRest
      · exact .inl hFirst
      · exact .inr (List.mem_cons_of_mem _ hRest)
    · rcases List.mem_cons.mp h with hFirst | hRest
      · exact .inr (hFirst ▸ List.mem_cons_self)
      · rcases ih hRest with hNew | hOld
        · exact .inl hNew
        · exact .inr (List.mem_cons_of_mem _ hOld)

theorem Distinct.put (h : Distinct fields) : Distinct (fields.put key value) := by
  induction fields with
  | nil => simp [Distinct, Fields.put]
  | cons first rest ih =>
    obtain ⟨k, v⟩ := first
    obtain ⟨hFirst, hRest⟩ := List.nodup_cons.mp h
    rw [Fields.put]
    split_ifs with hKey
    · subst hKey
      exact List.nodup_cons.mpr ⟨hFirst, hRest⟩
    · refine List.nodup_cons.mpr ⟨?_, ih hRest⟩
      intro hMem
      obtain ⟨entry, hEntry, hSame⟩ := List.mem_map.mp hMem
      rcases mem_put hEntry with rfl | hOld
      · exact hKey hSame.symm
      · exact hFirst (List.mem_map.mpr ⟨entry, hOld, hSame⟩)

/-- A field that is given counts, and else the one below it. -/
theorem get?_overlay (h : Distinct given) :
    get? (overlay base given) key = (get? given key).or (get? base key) := by
  induction given generalizing base with
  | nil => rfl
  | cons entry rest ih =>
    obtain ⟨k, v⟩ := entry
    obtain ⟨hFirst, hRest⟩ := List.nodup_cons.mp h
    rw [overlay, List.foldl_cons]
    change get? (overlay (base.put k v) rest) key = _
    rw [ih hRest, get?_put, get?_cons]
    split_ifs with hKey
    · subst hKey
      rw [get?_eq_none_iff.mpr hFirst, Option.none_or, Option.some_or]
    · rfl

theorem get?_filter (keep : Text → Bool) (h : keep key = true) :
    get? (fields.filter fun entry => keep entry.1) key = get? fields key := by
  induction fields with
  | nil => rfl
  | cons entry rest ih =>
    obtain ⟨k, v⟩ := entry
    rw [List.filter_cons, get?_cons]
    split_ifs with hKeep hKey hKey
    · rw [get?_cons, if_pos hKey]
    · rw [get?_cons, if_neg hKey, ih]
    · exact absurd (hKey ▸ h) hKeep
    · exact ih

theorem Distinct.filter (h : Distinct fields) (keep : Text × Json → Bool) :
    Distinct (fields.filter keep) :=
  h.sublist (List.filter_sublist.map Prod.fst)

/-- The fields of a record that have a value. -/
def ofEntries (entries : List (String × Option Json)) : Fields :=
  entries.filterMap fun entry => entry.2.map fun value => (Text.ofString entry.1, value)

theorem get?_ofEntries {entries : List (String × Option Json)} (name : String)
    (h : (entries.map Prod.fst).Nodup) :
    get? (ofEntries entries) (Text.ofString name) = (entries.lookup name).join := by
  induction entries with
  | nil => rfl
  | cons entry rest ih =>
    obtain ⟨label, value⟩ := entry
    obtain ⟨hFirst, hRest⟩ := List.nodup_cons.mp h
    by_cases hName : name = label
    · subst hName
      have hRestNone : rest.lookup name = none := by
        rw [List.lookup_eq_none_iff]
        intro other hOther
        rw [bne_iff_ne]
        intro hSame
        exact hFirst (List.mem_map.mpr ⟨other, hOther, hSame.symm⟩)
      cases value with
      | none =>
        change get? (ofEntries rest) (Text.ofString name) = _
        rw [ih hRest, hRestNone]
        simp
      | some value =>
        change get? ((Text.ofString name, value) :: ofEntries rest) (Text.ofString name) = _
        simp [get?_cons]
    · have hLabel : Text.ofString name ≠ Text.ofString label := Text.ofString_injective.ne hName
      have hTest : (name == label) = false := beq_eq_false_iff_ne.mpr hName
      cases value with
      | none =>
        change get? (ofEntries rest) (Text.ofString name) = _
        rw [ih hRest, List.lookup_cons, hTest]
      | some value =>
        change get? ((Text.ofString label, value) :: ofEntries rest) (Text.ofString name) = _
        rw [get?_cons, if_neg hLabel, ih hRest, List.lookup_cons, hTest]

end Fields

theorem recordOf_eq (entries : List (String × Option Json)) :
    recordOf entries = .object (Fields.ofEntries entries) := by
  rw [recordOf, record, List.map_filterMap]
  simp [Fields.ofEntries, Function.comp_def]

/-- One field to a key, at every depth. -/
inductive WellFormed : Json → Prop
  | null : WellFormed .null
  | bool (b : Bool) : WellFormed (.bool b)
  | number (n : Number) : WellFormed (.number n)
  | text (t : Text) : WellFormed (.text t)
  | list {items : List Json} : (∀ j ∈ items, WellFormed j) → WellFormed (.list items)
  | object {fields : Fields} :
    fields.Distinct → (∀ entry ∈ fields, WellFormed entry.2) → WellFormed (.object fields)

namespace Reader

theorem unsigned_wellFormed {negative : Bool} {t : Text} {r : Json × Text}
    (h : unsigned negative t = some r) : r.1.WellFormed := by
  rw [unsigned] at h
  split at h
  · cases h
  · split_ifs at h
    obtain ⟨p, -, h⟩ := Option.bind_eq_some_iff.mp h
    obtain ⟨q, -, h⟩ := Option.bind_eq_some_iff.mp h
    obtain rfl := Option.some.inj h
    exact .number _

theorem scalar_wellFormed {t : Text} {r : Json × Text} (h : scalar t = some r) :
    r.1.WellFormed := by
  rw [scalar] at h
  split at h
  · obtain rfl := Option.some.inj h
    exact .bool true
  · split at h
    · obtain rfl := Option.some.inj h
      exact .bool false
    · split at h
      · obtain rfl := Option.some.inj h
        exact .null
      · rw [number.eq_def] at h
        split at h
        · split_ifs at h
          · exact unsigned_wellFormed h
          · exact unsigned_wellFormed h
        · cases h

/-- Whatever is read is well-formed, if what stands before the next item or member is. -/
theorem reads_wellFormed (fuel : Nat) :
    (∀ t r, value fuel t = some r → r.1.WellFormed) ∧
    (∀ done t r, (∀ j ∈ done, WellFormed j) → items fuel done t = some r → r.1.WellFormed) ∧
    (∀ done t r, Fields.Distinct done → (∀ entry ∈ done, WellFormed entry.2) →
      members fuel done t = some r → r.1.WellFormed) := by
  induction fuel with
  | zero => simp [value, items, members]
  | succ fuel ih =>
    obtain ⟨hValue, hItems, hMembers⟩ := ih
    refine ⟨?_, ?_, ?_⟩
    · intro t r h
      rw [value] at h
      split at h
      · cases h
      · split at h
        · obtain ⟨q, -, rfl⟩ := Option.map_eq_some_iff.mp h
          exact .text q.1
        · split at h
          · obtain rfl := Option.some.inj h
            exact .list (by simp)
          · exact hItems [] _ r (by simp) h
        · split at h
          · obtain rfl := Option.some.inj h
            exact .object Fields.distinct_nil (by simp)
          · exact hMembers [] _ r Fields.distinct_nil (by simp) h
        · exact scalar_wellFormed h
    · intro done t r hDone h
      rw [items] at h
      split at h
      · cases h
      · next item rest hItem =>
        have hMore : ∀ j ∈ item :: done, WellFormed j :=
          List.forall_mem_cons.mpr ⟨hValue t _ hItem, hDone⟩
        split at h
        · exact hItems (item :: done) _ r hMore h
        · obtain ⟨q, -, rfl⟩ := Option.map_eq_some_iff.mp h
          apply WellFormed.list
          intro j hj
          exact hMore j (List.mem_reverse.mp hj)
    · intro done t r hDistinct hDone h
      rw [members] at h
      split at h
      · cases h
      · next key rest hKey =>
        split at h
        · cases h
        · next item rest hItem =>
          obtain ⟨start, -, hItem⟩ := Option.bind_eq_some_iff.mp hItem
          have hMore : ∀ entry ∈ done.put key item, WellFormed entry.2 := by
            intro entry hEntry
            rcases Fields.mem_put hEntry with rfl | hOld
            · exact hValue start _ hItem
            · exact hDone entry hOld
          split at h
          · exact hMembers _ _ r hDistinct.put hMore h
          · obtain ⟨q, -, rfl⟩ := Option.map_eq_some_iff.mp h
            exact .object hDistinct.put hMore

end Reader

theorem parse?_wellFormed {t : Text} {j : Json} (h : parse? t = some j) : j.WellFormed := by
  rw [parse?] at h
  split at h
  · next read rest hRead =>
    split_ifs at h
    obtain rfl := Option.some.inj h
    exact (Reader.reads_wellFormed _).1 t _ hRead
  · cases h

end LogTriage.Json
