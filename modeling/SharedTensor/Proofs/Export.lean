import SharedTensor.Proofs.Interchange

/-!
# Records of exports

An export makes the record of the storage as it is, from which the descriptor is read back
(`Store.descriptor_exportedRecord`), so the record can be taken in again unless its data are missing
(`Store.importable_exportedRecord`).
-/

namespace SharedTensor

namespace Store

variable {s : Store} {id : StorageId} {st : Storage} {config : Config}

/-- The record of an export: the strides of a row-major tensor are left out if the configuration
says so. -/
def exportedRecord (config : Config) (id : StorageId) (st : Storage) : Record :=
  (Header.ofParts st.descriptor st.data
    (if st.descriptor.isCompact && config.interop.omitCompactStrides then none
      else some st.descriptor.strides)).exported id

/-- The strides are left out of just those records. -/
theorem strides_exportedRecord :
    (exportedRecord config id st).strides = none ↔
      st.descriptor.isCompact ∧ config.interop.omitCompactStrides := by
  change (if st.descriptor.isCompact && config.interop.omitCompactStrides then none
    else some st.descriptor.strides) = none ↔ _
  simp

theorem exportRecord_of_live (live : s.storages.get? id = some st)
    (rank : st.descriptor.rank < 2 ^ 31) :
    s.exportRecord config ⟨some id⟩ =
      .ok (s.records.next, (s.retain id).publish (exportedRecord config id st)) := by
  rw [exportRecord, resolve_of_live live]
  simp only [Header.ofDescriptor_eq_ok rank]
  rfl

/-- The record of an export is read as the descriptor that it was made from. -/
theorem descriptor_exportedRecord (valid : st.descriptor.validate = .ok ())
    (lanes : st.descriptor.elementType.lanes ≠ 0) (rank : st.descriptor.rank < 2 ^ 31) :
    (exportedRecord config id st).descriptor = .ok st.descriptor := by
  refine Header.descriptor_ofDescriptor valid lanes rank ?_
  split
  · next both => exact .inr ⟨rfl, (Bool.and_eq_true_iff.1 both).1⟩
  · exact .inl rfl

theorem importable_exportedRecord {config' : Config} (valid : st.descriptor.validate = .ok ())
    (lanes : st.descriptor.elementType.lanes ≠ 0) (rank : st.descriptor.rank < 2 ^ 31)
    (data : st.data.isNull → 0 < st.descriptor.count → config'.safety.checkNullData = false) :
    importable config' (exportedRecord config id st) = .ok st.descriptor := by
  have refused : ¬ (st.data.isNull ∧ 0 < st.descriptor.count ∧ config'.safety.checkNullData) := by
    rintro ⟨null, count, check⟩
    rw [data null count] at check
    cases check
  rw [importable, descriptor_exportedRecord valid lanes rank]
  exact if_neg refused

/-- The store once the storage has been exported. -/
def afterExport (s : Store) (config : Config) (id : StorageId) (st : Storage) : Store :=
  (s.retain id).publish (exportedRecord config id st)

/-- What an export that succeeds has made. -/
theorem afterExport_of_ok {h : Handle} {r : RecordId} {s' : Store}
    (ok : s.exportRecord config h = .ok (r, s')) :
    ∃ id st, h = ⟨some id⟩ ∧ s.storages.get? id = some st ∧ st.descriptor.rank < 2 ^ 31 ∧
      r = s.records.next ∧ s' = s.afterExport config id st := by
  obtain ⟨id, st, -, rfl, live, -⟩ := exportRecord_eq_ok ok
  have rank : st.descriptor.rank < 2 ^ 31 := by
    refine Decidable.byContradiction fun large => ?_
    rw [exportRecord, resolve_of_live live] at ok
    simp only [Header.ofDescriptor, show ¬ st.descriptor.rank < 1 <<< 31 from large, if_false] at ok
    cases ok
  rw [exportRecord_of_live live rank] at ok
  cases ok
  exact ⟨id, st, rfl, live, rank, rfl, rfl⟩

end Store

end SharedTensor
