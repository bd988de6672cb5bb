import SharedTensor.Proofs.Client.Run

/-!
# What becomes of storages and records

An effect leaves a storage what it was, but for its count and for an owner that the memory gets
(`Storage.Kept`), and the same goes for a record and what its importer may write (`Record.Kept`).
So whatever is found after an effect was there before, or is new and as `Fresh` says
(`Effect.storage_cases`, `Effect.record_cases`).
-/

namespace SharedTensor

/-- The same storage, up to its count and an owner for memory that had none. -/
structure Storage.Kept (st st' : Storage) : Prop where
  data : st'.data = st.data
  descriptor : st'.descriptor = st.descriptor
  extent : st'.extent = st.extent
  release : st'.release = st.release ∨
    st.release = .unowned ∧ ∃ owner, st'.release = .external owner

theorem Storage.Kept.refl (st : Storage) : st.Kept st := ⟨rfl, rfl, rfl, .inl rfl⟩

/-- The same record, up to what it says of its tensor. -/
structure Record.Kept (record record' : Record) : Prop where
  origin : record'.origin = record.origin
  hasDeleter : record'.hasDeleter = record.hasDeleter
  context : record'.context = record.context

theorem Record.Kept.refl (record : Record) : record.Kept record := ⟨rfl, rfl, rfl⟩

theorem Record.Kept.exporter?_eq {record record' : Record} (k : record.Kept record') :
    record'.exporter? = record.exporter? := by
  simp only [Record.exporter?, k.origin, k.hasDeleter, k.context]

theorem Record.exporter?_eq_some_iff {record : Record} {id : StorageId} :
    record.exporter? = some id ↔
      record.origin = .exported ∧ record.hasDeleter ∧ record.context = some id := by
  simp only [exporter?, Option.ite_none_right_eq_some, Bool.and_eq_true, decide_eq_true_eq,
    and_assoc]

theorem Record.origin_of_exporter? {record : Record} {id : StorageId}
    (h : record.exporter? = some id) : record.origin = .exported :=
  (exporter?_eq_some_iff.1 h).1

theorem Record.hasDeleter_of_exporter? {record : Record} {id : StorageId}
    (h : record.exporter? = some id) : record.hasDeleter :=
  (exporter?_eq_some_iff.1 h).2.1

namespace Store

/-- The storage on which a record holds a reference. -/
def exportedFrom? (s : Store) (r : RecordId) : Option StorageId :=
  (s.records.get? r).bind Record.exporter?

/-- The storage that a release gives a reference back to. -/
def source? (s : Store) : Release → Option StorageId
  | .view parent => some parent
  | .foreign r => s.exportedFrom? r
  | _ => none

/-- The storage that a storage keeps alive. -/
def link? (s : Store) (id : StorageId) : Option StorageId :=
  (s.storages.get? id).bind fun st => s.source? st.release

theorem link?_eq_some_iff {s : Store} {i j : StorageId} :
    s.link? i = some j ↔
      ∃ st, s.storages.get? i = some st ∧ s.source? st.release = some j :=
  Option.bind_eq_some_iff

theorem source?_eq_some_iff {s : Store} {release : Release} {j : StorageId} :
    s.source? release = some j ↔
      release = .view j ∨ ∃ r, release = .foreign r ∧ s.exportedFrom? r = some j := by
  cases release <;> simp [source?]

/-- A new storage of the given release. -/
def fresh (s : Store) (d : Descriptor) (data : Pointer) (release : Release) : Storage where
  data
  descriptor := d
  extent := s.extentFor d data release
  release
  references := 1

theorem get?_add (s : Store) (d : Descriptor) (data : Pointer) (release : Release)
    (id : StorageId) :
    (s.add d data release).2.storages.get? id =
      if id = s.storages.next then some (s.fresh d data release) else s.storages.get? id :=
  Table.get?_add _ _ _

theorem get?_retain_of_live {s : Store} {id : StorageId} {st : Storage}
    (live : s.storages.get? id = some st) :
    (s.retain id).storages.get? id = some { st with references := st.references + 1 } := by
  rw [retain, Table.get?_update, if_pos rfl, live, Option.map_some]

/-- An update keeps every storage, if it keeps the one that it changes. -/
theorem kept_of_update {s : Store} {i id : StorageId} {f : Storage → Storage} {st' : Storage}
    (keeps : ∀ st, s.storages.get? i = some st → st.Kept (f st))
    (found : (s.storages.update i f).get? id = some st') :
    ∃ st, s.storages.get? id = some st ∧ st.Kept st' := by
  rw [Table.get?_update] at found
  split at found
  · next heq =>
    obtain ⟨st, hst, rfl⟩ := Option.map_eq_some_iff.1 found
    exact ⟨st, hst, keeps st (heq ▸ hst)⟩
  · exact ⟨st', found, .refl st'⟩

theorem kept_or_fresh_of_add {s : Store} {d : Descriptor} {data : Pointer} {release : Release}
    {id : StorageId} {st' : Storage}
    (found : (s.add d data release).2.storages.get? id = some st') :
    (∃ st, s.storages.get? id = some st ∧ st.Kept st') ∨
      id = s.storages.next ∧ st' = s.fresh d data release := by
  rw [get?_add] at found
  split at found
  · next heq => exact .inr ⟨heq, (Option.some.inj found).symm⟩
  · exact .inl ⟨st', found, .refl st'⟩

theorem get?_retire (s : Store) (id i : StorageId) (st : Storage) :
    (s.retire id st).1.storages.get? i = if i = id then none else s.storages.get? i := by
  rw [retire_storages, Table.get?_erase]

/-- A deletion takes the record out or leaves all records alone. -/
theorem get?_deleteRecord (s : Store) (r i : RecordId) {record : Record}
    (h : (s.deleteRecord r).1.records.get? i = some record) :
    s.records.get? i = some record := by
  cases hr : s.records.get? r with
  | none => simpa [deleteRecord, hr] using h
  | some gone =>
    by_cases hd : gone.hasDeleter
    · rw [(deleteRecord_of_hasDeleter hr hd).1, Table.get?_erase] at h
      split at h
      · cases h
      · exact h
    · rwa [deleteRecord_of_not_hasDeleter hr hd] at h

theorem records_runRelease (s : Store) (id : StorageId) (release : Release) :
    (s.runRelease id release).1.records = s.records ∨
      ∃ r, release = .foreign r ∧
        (s.runRelease id release).1.records = (s.deleteRecord r).1.records := by
  cases release with
  | foreign r => exact .inr ⟨r, rfl, rfl⟩
  | owned | unowned | view | external => exact .inl rfl

theorem get?_records_retire (s : Store) (id : StorageId) (st : Storage) (i : RecordId)
    {record : Record} (h : (s.retire id st).1.records.get? i = some record) :
    s.records.get? i = some record := by
  rcases (s.forget id).records_runRelease id st.release with heq | ⟨r, _, heq⟩
  · exact heq ▸ h
  · exact (s.forget id).get?_deleteRecord r i (heq ▸ h)

end Store

namespace Client

variable {c c' : Client} {id : StorageId}

/-- What a new storage is like. -/
inductive Fresh (c : Client) : Storage → Prop
  | owned {d : Descriptor} (valid : d.validate = .ok ()) (block : Block) :
      Fresh c (c.store.fresh d (.toStart block) (.owned block))
  | unowned {d : Descriptor} (valid : d.validate = .ok ()) (data : Pointer) :
      Fresh c (c.store.fresh d data .unowned)
  | view {d : Descriptor} (valid : d.validate = .ok ()) (data : Pointer) {parent : StorageId}
      {st : Storage} (live : c.store.storages.get? parent = some st) :
      Fresh c (c.store.fresh d data (.view parent))
  | foreign {d : Descriptor} (valid : d.validate = .ok ()) (data : Pointer) {r : RecordId}
      {record : Record} (found : c.store.records.get? r = some record) :
      Fresh c (c.store.fresh d data (.foreign r))

/-- **A storage found after an effect was there before, or is new.** -/
theorem Effect.storage_cases (e : Effect c c') (h : Balanced c) {st' : Storage}
    (found : c'.store.storages.get? id = some st') :
    (∃ st, c.store.storages.get? id = some st ∧ st.Kept st') ∨
      id = c.store.storages.next ∧ Fresh c st' := by
  cases e with
  | settings | host | gainEmpty | loseEmpty | toHandle | toReference | toRaw | toManaged
  | exported | produced | overwrite | warn => exact .inl ⟨st', found, .refl st'⟩
  | retain =>
    refine .inl (Store.kept_of_update (s := c.store) (fun st _ => ?_) found)
    exact ⟨rfl, rfl, rfl, .inl rfl⟩
  | @lower c =>
    refine .inl (Store.kept_of_update (s := c.store) (fun st _ => ?_) found)
    exact ⟨rfl, rfl, rfl, .inl rfl⟩
  | adopt live sole unowned owner =>
    refine .inl (Store.kept_of_update (s := c.store) (fun st hst => ?_) found)
    obtain rfl := Option.some.inj (live.symm.trans hst)
    exact ⟨rfl, rfl, rfl, .inr ⟨unowned, owner, rfl⟩⟩
  | retire =>
    rw [owe_store, Store.get?_retire] at found
    split at found
    · cases found
    · exact .inl ⟨st', found, .refl st'⟩
  | @delete c r =>
    rw [owe_store] at found
    exact .inl ⟨st', c.store.deleteRecord_storages r ▸ found, .refl st'⟩
  | allocate valid charged =>
    rcases Store.kept_or_fresh_of_add found with old | ⟨heq, rfl⟩
    · exact .inl old
    · exact .inr ⟨heq, .owned valid _⟩
  | borrow valid data =>
    rcases Store.kept_or_fresh_of_add found with old | ⟨heq, rfl⟩
    · exact .inl old
    · exact .inr ⟨heq, .unowned valid data⟩
  | @view c _ valid data parent =>
    obtain ⟨st, live⟩ := h.live_of_mem_references (Multiset.mem_cons_self parent _)
    rcases Store.kept_or_fresh_of_add found with old | ⟨heq, rfl⟩
    · exact .inl old
    · exact .inr ⟨heq, .view (c := { c with references := parent ::ₘ c.references })
        valid data live⟩
  | @imported c _ valid data r =>
    obtain ⟨record, hr⟩ := h.exists_of_mem_raw (Multiset.mem_cons_self r _)
    rcases Store.kept_or_fresh_of_add found with old | ⟨heq, rfl⟩
    · exact .inl old
    · exact .inr ⟨heq, .foreign (c := { c with raw := r ::ₘ c.raw }) valid data hr⟩

/-- **A record found after an effect was there before, or is new.** A new one holds a reference to a
live storage or none at all. -/
theorem Effect.record_cases (e : Effect c c') (h : Balanced c) {r : RecordId} {record' : Record}
    (found : c'.store.records.get? r = some record') :
    (∃ record, c.store.records.get? r = some record ∧ record.Kept record') ∨
      r = c.store.records.next ∧ ∀ i, record'.exporter? = some i →
        ∃ st, c.store.storages.get? i = some st := by
  cases e with
  | settings | host | gainEmpty | loseEmpty | toHandle | toReference | toRaw | toManaged
  | retain | lower | adopt | warn | allocate | borrow | view | imported =>
    exact .inl ⟨record', found, .refl record'⟩
  | retire =>
    rw [owe_store] at found
    exact .inl ⟨record', Store.get?_records_retire _ _ _ r found, .refl record'⟩
  | delete =>
    rw [owe_store] at found
    exact .inl ⟨record', Store.get?_deleteRecord _ _ r found, .refl record'⟩
  | @exported c i header =>
    obtain ⟨st, live⟩ := h.live_of_mem_references (Multiset.mem_cons_self i _)
    simp only [Store.publish, Table.get?_add] at found
    split at found
    · next heq =>
      obtain rfl := Option.some.inj found
      refine .inr ⟨heq, fun j hj => ?_⟩
      obtain rfl : i = j := Option.some.inj hj
      exact ⟨st, live⟩
    · exact .inl ⟨record', found, .refl record'⟩
  | produced header producer hasDeleter =>
    simp only [Store.receive, Table.get?_add] at found
    split at found
    · next heq =>
      obtain rfl := Option.some.inj found
      exact .inr ⟨heq, fun j hj => by cases hj⟩
    · exact .inl ⟨record', found, .refl record'⟩
  | overwrite i header =>
    simp only [Store.overwrite, Table.get?_update] at found
    split at found
    · obtain ⟨record, hrecord, rfl⟩ := Option.map_eq_some_iff.1 found
      exact .inl ⟨record, hrecord, ⟨rfl, rfl, rfl⟩⟩
    · exact .inl ⟨record', found, .refl record'⟩

/-- What is there before and after an effect is still the same storage. -/
theorem Effect.storage_kept (e : Effect c c') (h : Balanced c) {st st' : Storage}
    (live : c.store.storages.get? id = some st) (live' : c'.store.storages.get? id = some st') :
    st.Kept st' := by
  rcases e.storage_cases h live' with ⟨old, hold, kept⟩ | ⟨hid, _⟩
  · obtain rfl : st = old := Option.some.inj (live.symm.trans hold)
    exact kept
  · exact absurd hid (Table.lt_next_of_get? live).ne

theorem Effect.record_kept (e : Effect c c') (h : Balanced c) {r : RecordId}
    {record record' : Record} (found : c.store.records.get? r = some record)
    (found' : c'.store.records.get? r = some record') : record.Kept record' := by
  rcases e.record_cases h found' with ⟨old, hold, kept⟩ | ⟨hr, _⟩
  · obtain rfl : record = old := Option.some.inj (found.symm.trans hold)
    exact kept
  · exact absurd hr (Table.lt_next_of_get? found).ne

end Client

end SharedTensor
