import Mathlib.Data.List.Nodup

/-!
# Keyed records

Lists of records in which the first record with a key is the record of that key.
-/

set_option autoImplicit false

namespace OpenDnp3.Library

universe u v w

namespace Keyed

variable {Key : Type u} {Record : Type v} [DecidableEq Key] (key : Record → Key)

/-- The record of a key. -/
def find (wanted : Key) (records : List Record) : Option Record :=
  records.find? fun record => key record = wanted

/-- Change the record of a key. -/
def update (wanted : Key) (visit : Record → Record) : List Record → List Record
  | [] => []
  | record :: records =>
      if key record = wanted then visit record :: records
      else record :: update wanted visit records

/-- Erase the record of a key. -/
def erase (wanted : Key) (records : List Record) : List Record :=
  records.eraseP fun record => key record = wanted

variable {key}

theorem find_cons (wanted : Key) (record : Record) (records : List Record) :
    find key wanted (record :: records) =
      if key record = wanted then some record else find key wanted records := by
  rw [find, List.find?_cons]
  by_cases same : key record = wanted
  · simp [same]
  · simp [same, find]

theorem key_of_find {wanted : Key} {records : List Record} {record : Record}
    (found : find key wanted records = some record) : key record = wanted := by
  simpa using List.find?_some found

theorem mem_of_find {wanted : Key} {records : List Record} {record : Record}
    (found : find key wanted records = some record) : record ∈ records :=
  List.mem_of_find?_eq_some found

theorem find_eq_none {wanted : Key} {records : List Record} :
    find key wanted records = none ↔ wanted ∉ records.map key := by
  simp [find]

/-- Where keys are unique, every record is the record of its key. -/
theorem find_of_mem {records : List Record} (unique : (records.map key).Nodup) {record : Record}
    (member : record ∈ records) : find key (key record) records = some record := by
  induction records with
  | nil => cases member
  | cons first records ih =>
      obtain ⟨fresh, others⟩ := List.nodup_cons.mp unique
      rw [find_cons]
      rcases List.mem_cons.mp member with rfl | inside
      · rw [if_pos rfl]
      · have different : key first ≠ key record := by
          intro same
          exact fresh (same ▸ List.mem_map_of_mem inside)
        rw [if_neg different]
        exact ih others inside

/-! ## Visits -/

variable {visit : Record → Record}

omit [DecidableEq Key] in
theorem map_key_map (kept : ∀ record, key (visit record) = key record) (records : List Record) :
    (records.map visit).map key = records.map key := by
  rw [List.map_map]
  exact List.map_congr_left fun record _ => kept record

theorem find_map (kept : ∀ record, key (visit record) = key record) (wanted : Key)
    (records : List Record) :
    find key wanted (records.map visit) = (find key wanted records).map visit := by
  induction records with
  | nil => rfl
  | cons record records ih =>
      rw [List.map_cons, find_cons, find_cons, kept, ih]
      split
      · rfl
      · rfl

theorem map_key_update (kept : ∀ record, key (visit record) = key record) (wanted : Key)
    (records : List Record) : (update key wanted visit records).map key = records.map key := by
  induction records with
  | nil => rfl
  | cons record records ih =>
      rw [update]
      split
      · rw [List.map_cons, List.map_cons, kept]
      · rw [List.map_cons, List.map_cons, ih]

theorem find_update (kept : ∀ record, key (visit record) = key record) (wanted other : Key)
    (records : List Record) :
    find key other (update key wanted visit records) =
      if other = wanted then (find key other records).map visit else find key other records := by
  induction records with
  | nil => simp [update, find]
  | cons record records ih =>
      rw [update]
      by_cases here : key record = wanted
      · rw [if_pos here, find_cons, find_cons, kept]
        by_cases same : key record = other
        · rw [if_pos same, if_pos same, if_pos (same.symm.trans here)]
          rfl
        · rw [if_neg same, if_neg same, if_neg fun equal => same (here.trans equal.symm)]
      · rw [if_neg here, find_cons, find_cons, ih]
        by_cases same : key record = other
        · rw [if_pos same, if_pos same, if_neg fun equal => here (same.trans equal)]
        · rw [if_neg same, if_neg same]

/-! ## Members -/

theorem find_concat {wanted : Key} {records : List Record} (record : Record)
    (fresh : find key (key record) records = none) :
    find key wanted (records ++ [record]) =
      if wanted = key record then some record else find key wanted records := by
  by_cases same : wanted = key record
  · subst same
    rw [if_pos rfl, find, List.find?_append]
    change (find key (key record) records).or _ = _
    rw [fresh]
    simp
  · rw [if_neg same, find, List.find?_append]
    have other : ¬key record = wanted := fun equal => same equal.symm
    simp [other, find]

theorem nodup_concat {records : List Record} (unique : (records.map key).Nodup) {record : Record}
    (fresh : find key (key record) records = none) : ((records ++ [record]).map key).Nodup := by
  rw [List.map_append, List.map_cons, List.map_nil]
  exact List.nodup_append.mpr ⟨unique, List.nodup_singleton _, by
    intro one inside two single same
    rw [List.mem_singleton.mp single] at same
    exact find_eq_none.mp fresh (same ▸ inside)⟩

theorem nodup_erase {records : List Record} (unique : (records.map key).Nodup) (wanted : Key) :
    ((erase key wanted records).map key).Nodup :=
  unique.sublist (List.eraseP_sublist.map key)

theorem find_erase {records : List Record} (unique : (records.map key).Nodup)
    (wanted other : Key) :
    find key other (erase key wanted records) =
      if other = wanted then none else find key other records := by
  induction records with
  | nil => simp [erase, find]
  | cons record records ih =>
      obtain ⟨fresh, others⟩ := List.nodup_cons.mp unique
      by_cases here : key record = wanted
      · have erased : erase key wanted (record :: records) = records := by
          simp [erase, here]
        rw [erased, find_cons]
        by_cases same : other = wanted
        · rw [if_pos same, find_eq_none]
          rwa [same, ← here]
        · rw [if_neg same, if_neg fun equal => same (equal.symm.trans here)]
      · have kept : erase key wanted (record :: records) =
            record :: erase key wanted records := by
          simp [erase, here]
        rw [kept, find_cons, find_cons, ih others]
        by_cases same : key record = other
        · rw [if_pos same, if_pos same, if_neg fun equal => here (same.trans equal)]
        · rw [if_neg same, if_neg same]

/-- Where keys are unique, what all the records yield for a key is what its record yields. -/
theorem filterMap_flatMap {Event Note : Type w} {records : List Record}
    (unique : (records.map key).Nodup) (wanted : Key) (yields : Record → List Event)
    (note : Event → Option Note)
    (own : ∀ record, key record ≠ wanted → (yields record).filterMap note = []) :
    (records.flatMap yields).filterMap note =
      (find key wanted records).elim [] fun record => (yields record).filterMap note := by
  induction records with
  | nil => rfl
  | cons record records ih =>
      obtain ⟨fresh, others⟩ := List.nodup_cons.mp unique
      rw [List.flatMap_cons, List.filterMap_append, ih others, find_cons]
      by_cases same : key record = wanted
      · have none : find key wanted records = none := find_eq_none.mpr (same ▸ fresh)
        rw [if_pos same, none]
        exact List.append_nil _
      · rw [if_neg same, own record same]
        rfl

end Keyed

end OpenDnp3.Library
