import SharedTensor.Proofs.Operations
import SharedTensor.Proofs.Tally

/-!
# What a drop leaves alone

A drop lowers counts and retires storages, one after the other, so whatever these two preserve is
preserved by every drop (`Store.drop_preserves`). No storage is made on the way, no memory is
handed out, and none is written to. What the deletion of a record does depends on where the record
comes from.
-/

namespace SharedTensor.Store

variable {s : Store} {id : StorageId}

/-! ## Drops -/

/-- What lowering a count and retiring a live storage preserve is preserved by a drop. -/
theorem drop_preserves {P : Store → Prop} (lower : ∀ s id, P s → P (lower s id))
    (retire : ∀ s id st, s.storages.get? id = some st → P s → P (retire s id st).1)
    (start : P s) : P (s.drop id) := by
  induction s, id using drop.induct with
  | case1 s id dead =>
    rw [drop, dead]
    exact start
  | case2 s id st found many =>
    rw [drop_of_many found many]
    exact lower s id start
  | case3 s id st found last left =>
    rw [drop_of_last found last, left]
    exact retire s id st found start
  | case4 s id st found last other left ih =>
    rw [drop_of_last found last, left]
    exact ih (retire s id st found start)

theorem dropAll_preserves {P : Store → Prop} (lower : ∀ s id, P s → P (lower s id))
    (retire : ∀ s id st, s.storages.get? id = some st → P s → P (retire s id st).1)
    (start : P s) (ids : List StorageId) : P (s.dropAll ids) := by
  induction ids generalizing s with
  | nil => exact start
  | cons id ids ih => exact ih (drop_preserves lower retire start)

/-- A drop makes no storages. -/
theorem next_dropAll (s : Store) (ids : List StorageId) :
    (s.dropAll ids).storages.next = s.storages.next := by
  refine dropAll_preserves (P := fun s' => s'.storages.next = s.storages.next)
    (fun s' id same => ?_) (fun s' id st _ same => ?_) rfl ids
  · exact (Table.next_update ..).trans same
  · rw [retire_storages, Table.next_erase]
    exact same

/-! ## Deletions -/

variable {r : RecordId} {record : Record}

/-- The deleter of a producer tells the producer. -/
theorem deleteRecord_of_produced {producer : String} (found : s.records.get? r = some record)
    (deletable : record.hasDeleter) (produced : record.origin = .produced producer) :
    s.deleteRecord r =
      ({ s with
        records := s.records.erase r
        notices := s.notices ++ [.deleted r producer] }, none) := by
  simp [deleteRecord, found, deletable, produced, tell]

/-- The deleter of an export leaves over the reference that the record holds. -/
theorem deleteRecord_of_exported (found : s.records.get? r = some record)
    (deletable : record.hasDeleter) (exported : record.origin = .exported) :
    s.deleteRecord r =
      ({ s with
        records := s.records.erase r
        counters := { s.counters with exports := s.counters.exports - 1 } }, record.context) := by
  simp [deleteRecord, found, deletable, exported]

end SharedTensor.Store
