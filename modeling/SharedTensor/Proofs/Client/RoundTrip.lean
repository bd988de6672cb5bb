import SharedTensor.Proofs.Client.Validity

/-!
# Export and import

A tensor that is exported and taken in again is the same tensor over the same bytes, with one more
reference to its storage, and dropping it undoes all of it (`export_import_round_trip`). Only the
numbers that have been given out stay given out.
-/

namespace SharedTensor

namespace Store

variable {s : Store} {id : StorageId} {st : Storage} {config : Config}

/-! ## There and back -/

/-- The store once the export has been taken in again. -/
def afterImport (s : Store) (config : Config) (id : StorageId) (st : Storage) : Store :=
  ((s.afterExport config id st).add st.descriptor st.data (.foreign s.records.next)).2

theorem importRecord_afterExport {config' : Config} (valid : st.descriptor.validate = .ok ())
    (lanes : st.descriptor.elementType.lanes ≠ 0) (rank : st.descriptor.rank < 2 ^ 31)
    (data : st.data.isNull → 0 < st.descriptor.count → config'.safety.checkNullData = false) :
    (s.afterExport config id st).importRecord config' s.records.next =
      (.ok ⟨some s.storages.next⟩, s.afterImport config id st) := by
  have found : (s.afterExport config id st).records.get? s.records.next =
      some (exportedRecord config id st) := by
    rw [afterExport, publish, Table.get?_add]
    exact if_pos rfl
  have next : (s.afterExport config id st).storages.next = s.storages.next :=
    Table.next_update ..
  rw [importRecord, found, ← next]
  simp only [importable_exportedRecord valid lanes rank data]
  rfl

theorem get?_afterExport (i : StorageId) :
    (s.afterExport config id st).storages.get? i =
      if i = id then (s.storages.get? i).map fun st => { st with references := st.references + 1 }
      else s.storages.get? i :=
  Table.get?_update ..

/-- The record of the export holds its reference on the storage. -/
theorem exportedFrom?_afterExport :
    (s.afterExport config id st).exportedFrom? s.records.next = some id := by
  rw [exportedFrom?, afterExport, publish, Table.get?_add]
  simp [retain, exportedRecord, Header.exported, Record.exporter?]

theorem get?_afterImport (config : Config) (live : s.storages.get? id = some st)
    (i : StorageId) :
    (s.afterImport config id st).storages.get? i =
      if i = s.storages.next then
        some {
          data := st.data
          descriptor := st.descriptor
          extent := st.extent
          release := .foreign s.records.next
          references := 1 }
      else (s.afterExport config id st).storages.get? i := by
  have retained : (s.afterExport config id st).storages.get? id =
      some { st with references := st.references + 1 } := by
    rw [get?_afterExport, if_pos rfl, live]
    rfl
  have exporter : (s.afterExport config id st).exporter? s.records.next =
      some { st with references := st.references + 1 } :=
    Option.bind_eq_some_iff.2 ⟨id, exportedFrom?_afterExport, retained⟩
  have next : (s.afterExport config id st).storages.next = s.storages.next :=
    Table.next_update ..
  rw [afterImport, get?_add, next, fresh, extentFor, exporter]

/-- The store once the imported storage has been retired and its record deleted. -/
def afterRetire (s : Store) (config : Config) (id : StorageId) (st : Storage) : Store :=
  let gone := (s.afterImport config id st).forget s.storages.next
  { gone with
    records := gone.records.erase s.records.next
    counters := { gone.counters with exports := gone.counters.exports - 1 } }

theorem retire_afterImport {imported : Storage}
    (release : imported.release = .foreign s.records.next) :
    (s.afterImport config id st).retire s.storages.next imported =
      (s.afterRetire config id st, some id) := by
  have found : ((s.afterImport config id st).forget s.storages.next).records.get? s.records.next =
      some (exportedRecord config id st) := by
    change (s.records.add (exportedRecord config id st)).get? s.records.next = _
    rw [Table.get?_add, if_pos rfl]
  change ((s.afterImport config id st).forget s.storages.next).runRelease _ imported.release = _
  rw [release]
  exact deleteRecord_of_exported found rfl rfl

/-- Dropping the imported tensor undoes the export and the import. -/
theorem dropHandle_afterImport (config : Config) (live : s.storages.get? id = some st)
    (held : 0 < st.references) :
    let s' := (s.afterImport config id st).dropHandle ⟨some s.storages.next⟩
    (∀ i, s'.storages.get? i = s.storages.get? i) ∧ s'.host = s.host ∧
      s'.counters = { s.counters with released := s.counters.released + 1 } := by
  intro s'
  have older : id ≠ s.storages.next := (Table.lt_next_of_get? live).ne
  have imported := get?_afterImport config live s.storages.next
  rw [if_pos rfl] at imported
  have remains : (s.afterRetire config id st).storages.get? id =
      some { st with references := st.references + 1 } := by
    rw [afterRetire, forget, Table.get?_erase, if_neg older, get?_afterImport config live,
      if_neg older, get?_afterExport, if_pos rfl, live]
    rfl
  have dropped : s' = (s.afterRetire config id st).lower id := by
    change (s.afterImport config id st).drop s.storages.next = _
    rw [drop_of_last imported (Nat.lt_irrefl 1), retire_afterImport rfl]
    exact drop_of_many remains (Nat.succ_lt_succ held)
  rw [dropped]
  refine ⟨fun i => ?_, rfl, rfl⟩
  rw [lower, Table.get?_update]
  by_cases hid : i = id
  · subst hid
    rw [if_pos rfl, remains, live]
    rfl
  · rw [if_neg hid, afterRetire, forget, Table.get?_erase]
    by_cases hnext : i = s.storages.next
    · rw [if_pos hnext, hnext, Table.get?_next]
    · rw [if_neg hnext, get?_afterImport config live, if_neg hnext, get?_afterExport, if_neg hid]

end Store

namespace Client

variable {c c' : Client}

/-- **A tensor that is exported and taken in again is the same tensor over the same bytes.** The
storage has one more reference on the way, and dropping the imported tensor restores the counts. -/
theorem export_import_round_trip (moves : List Move) (id : StorageId)
    (held : ⟨some id⟩ ∈ (run {} moves).handles) :
    let s := (run {} moves).store
    ∃ st, s.storages.get? id = some st ∧ ∀ config config' : Config,
      1 ≤ st.descriptor.elementType.lanes → st.descriptor.rank ≤ 2 ^ 31 - 1 →
      (st.data.isNull → 0 < st.descriptor.count → config'.safety.checkNullData = false) →
      ∃ r record s₁, s.exportRecord config ⟨some id⟩ = .ok (r, s₁) ∧
        s₁.records.get? r = some record ∧
        (1 ≤ st.descriptor.rank → (record.strides = none ↔
          st.descriptor.isCompact ∧ config.interop.omitCompactStrides)) ∧
        s₁.storages.get? id = some { st with references := st.references + 1 } ∧
        ∃ i imported s₂, s₁.importRecord config' r = (.ok ⟨some i⟩, s₂) ∧
          s₂.storages.get? i = some imported ∧ imported.descriptor = st.descriptor ∧
          imported.data = st.data ∧ imported.extent = st.extent ∧ s₂.link? i = some id ∧
          s₂.storages.get? id = some { st with references := st.references + 1 } ∧
          let s₃ := s₂.dropHandle ⟨some i⟩
          s₃.references ⟨some id⟩ = s.references ⟨some id⟩ ∧
            s₃.counters.live = s.counters.live ∧ s₃.counters.exports = s.counters.exports ∧
            s₃.host.pool.allocated = s.host.pool.allocated := by
  intro s
  have h : Balanced (run {} moves) := balanced_run balanced_empty moves
  obtain ⟨st, live⟩ : ∃ st, s.storages.get? id = some st := h.live_of_mem_handles held
  refine ⟨st, live, fun config config' lanes rank data => ?_⟩
  have valid : st.descriptor.validate = .ok () := valid_run moves id st live
  have lanes' : st.descriptor.elementType.lanes ≠ 0 := by
    intro hzero
    rw [hzero] at lanes
    exact absurd lanes (by decide)
  have rank' : st.descriptor.rank < 2 ^ 31 := by omega
  have older : id ≠ s.storages.next := (Table.lt_next_of_get? live).ne
  have retained : (s.afterExport config id st).storages.get? id =
      some { st with references := st.references + 1 } := by
    rw [Store.get?_afterExport, if_pos rfl, live]
    rfl
  have imported := Store.get?_afterImport config live s.storages.next
  rw [if_pos rfl] at imported
  obtain ⟨storages, host, counters⟩ :=
    Store.dropHandle_afterImport config live (h.references_pos id st live)
  refine ⟨s.records.next, Store.exportedRecord config id st, s.afterExport config id st,
    Store.exportRecord_of_live live rank', ?_, fun _ => Store.strides_exportedRecord, retained,
    s.storages.next, _, s.afterImport config id st,
    Store.importRecord_afterExport valid lanes' rank' data, imported, rfl, rfl, rfl, ?_, ?_, ?_⟩
  · rw [Store.afterExport, Store.publish, Table.get?_add]
    exact if_pos rfl
  · exact Store.link?_eq_some_iff.2 ⟨_, imported, Store.exportedFrom?_afterExport⟩
  · rw [Store.get?_afterImport config live, if_neg older]
    exact retained
  · refine ⟨?_, ?_, ?_, ?_⟩
    · rw [Store.references_some, Store.references_some, storages]
    · rw [counters]
    · rw [counters]
    · rw [host]

/-- A tensor read backwards, through a view of fresh memory, keeps its strides on the way. -/
theorem export_import_round_trip_reversed :
    let moves : List Move := [.ofList .uint8 [1, 2, 3] [3],
      .view ⟨some 0⟩ { strides := some [-1], data := some ⟨70368744177666, ⟨70368744177664, 3⟩⟩ }]
    let s := (run {} moves).store
    ∃ r record s₁ i imported s₂, s.exportRecord {} ⟨some 1⟩ = .ok (r, s₁) ∧
      s₁.records.get? r = some record ∧ record.strides ≠ none ∧
      s₁.importRecord {} r = (.ok ⟨some i⟩, s₂) ∧ s₂.storages.get? i = some imported ∧
      imported.descriptor.strides = [-1] ∧
      (s₂.dropHandle ⟨some i⟩).counters.exports = s.counters.exports := by
  intro moves s
  obtain ⟨st, live, trip⟩ := export_import_round_trip moves 1 (by decide +kernel)
  have found : (s.storages.get? 1).map (fun st => (st.descriptor, st.data.isNull)) =
      some (⟨⟨[3], [-1]⟩, 0, .uint8, .cpu⟩, false) := by decide +kernel
  rw [show s.storages.get? 1 = some st from live, Option.map_some, Option.some.injEq,
    Prod.mk.injEq] at found
  obtain ⟨descriptor, notNull⟩ := found
  obtain ⟨r, record, s₁, exported, hrecord, strides, _, i, imported, s₂, taken, himported, same,
    _, _, _, _, _, _, exports, _⟩ := trip {} {} (by rw [descriptor]; decide)
      (by rw [descriptor]; decide) fun null => absurd null (by rw [notNull]; decide)
  refine ⟨r, record, s₁, i, imported, s₂, exported, hrecord, fun left => ?_, taken, himported,
    by rw [same, descriptor], exports⟩
  have compact := ((strides (by rw [descriptor]; decide)).1 left).1
  rw [descriptor] at compact
  exact absurd compact (by decide)

end Client

end SharedTensor
