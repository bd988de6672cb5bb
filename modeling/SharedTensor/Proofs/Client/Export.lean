import SharedTensor.Proofs.Client.Extent
import SharedTensor.Proofs.Client.Lifetime
import SharedTensor.Proofs.Import
import SharedTensor.Proofs.View

/-!
# Exports and their storages

The record of an export says what the storage was when it was exported, and as the storage does not
change, it says what the storage is for as long as both are there (`Store.IsExport`). Small changes
preserve this (`Change.isExport`). What is taken in of such a record is the same tensor, whether the
strides of a row-major tensor have been left out of it or not (`IsExport.same`).
-/

namespace SharedTensor

/-- A record that has been made from a descriptor and can be read has elements with lanes. -/
theorem Header.lanes_ne_zero {d d' : Descriptor} {data : Pointer} {strides : Option (List Int64)}
    (ok : (Header.ofParts d data strides).descriptor = .ok d') : d.elementType.lanes ≠ 0 := by
  simp only [descriptor, bind_eq_ok_iff] at ok
  obtain ⟨shape, -, steps, -, t, ht, -⟩ := ok
  exact (TypeNumbers.elementType_eq_ok_iff.1 ht).1

namespace Store

/-- The record is an export of the storage with the number, which still is what it was then. -/
structure IsExport (s : Store) (id : StorageId) (st : Storage) (record : Record) : Prop where
  exported : ∃ config, record = exportedRecord config id st
  rank : st.descriptor.rank < 2 ^ 31
  given : id < s.storages.next
  kept : ∀ st', s.storages.get? id = some st' → st.Kept st'

namespace IsExport

variable {s : Store} {id : StorageId} {st st' : Storage} {record : Record} {r : RecordId}
  {config : Config}

theorem of_live (live : s.storages.get? id = some st) (rank : st.descriptor.rank < 2 ^ 31) :
    s.IsExport id st (exportedRecord config id st) where
  exported := ⟨config, rfl⟩
  rank := rank
  given := Table.lt_next_of_get? live
  kept st' live' := by
    obtain rfl := Option.some.inj (live.symm.trans live')
    exact .refl st

theorem exporter? (h : s.IsExport id st record) : record.exporter? = some id := by
  obtain ⟨config, rfl⟩ := h.exported
  rfl

theorem data (h : s.IsExport id st record) : record.data = st.data := by
  obtain ⟨config, rfl⟩ := h.exported
  rfl

theorem exportedFrom? (h : s.IsExport id st record) (found : s.records.get? r = some record) :
    s.exportedFrom? r = some id := by
  rw [Store.exportedFrom?, found, Option.bind_some, h.exporter?]

/-- The record can be taken in as the storage that it is of. -/
theorem importable_eq_ok (h : s.IsExport id st record) (valid : st.descriptor.validate = .ok ())
    (lanes : st.descriptor.elementType.lanes ≠ 0)
    (data : st.data.isNull → 0 < st.descriptor.count → config.safety.checkNullData = false) :
    importable config record = .ok st.descriptor := by
  obtain ⟨config', rfl⟩ := h.exported
  exact importable_exportedRecord valid lanes h.rank data

/-- **What is taken in is the tensor that the record is of.** The bytes that may be read are those of
the storage itself. -/
theorem same (h : s.IsExport id st record) (found : s.records.get? r = some record)
    (live : s.storages.get? id = some st') (valid : st'.descriptor.validate = .ok ())
    {d : Descriptor} (ok : importable config record = .ok d) :
    st'.Same (s.fresh d record.data (.foreign r)) := by
  have kept := h.kept st' live
  have extent : s.extentFor d record.data (.foreign r) = st'.extent :=
    extentFor_of_source (source?_eq_some_iff.2 (.inr ⟨r, rfl, h.exportedFrom? found⟩)) live d _
  have data : record.data = st'.data := h.data.trans kept.data.symm
  have rank := h.rank
  obtain ⟨config', rfl⟩ := h.exported
  obtain ⟨read, -⟩ := descriptor_of_importable ok
  have lanes := Header.lanes_ne_zero read
  rw [kept.descriptor] at valid
  have descriptor : d = st'.descriptor := by
    rw [kept.descriptor]
    exact Except.ok.inj (read.symm.trans (descriptor_exportedRecord valid lanes rank))
  exact ⟨data, extent, descriptor⟩

end IsExport

end Store

namespace Client

variable {c : Client} {t : Turn} {s s' : Store} {id : StorageId} {st : Storage} {record : Record}

/-- A record stays the export of a storage. -/
theorem Change.isExport (e : Change c t s s') (h : s.IsExport id st record) :
    s'.IsExport id st record where
  exported := h.exported
  rank := h.rank
  given := h.given.trans_le e.next_le.1
  kept st' found := by
    obtain ⟨old, live, kept, -⟩ := e.later.kept id st' h.given found
    exact (h.kept old live).trans kept

/-- A new record that refers to a storage is an export of it. -/
theorem Issued.isExport (issued : Issued c s record) (exporter : record.exporter? = some id) :
    ∃ st, s.IsExport id st record := by
  cases issued with
  | exported live rank =>
    obtain rfl := Option.some.inj exporter
    exact ⟨_, .of_live live rank⟩
  | produced header producer hasDeleter => cases exporter

end Client

end SharedTensor
