import SharedTensor.Proofs.Host
import SharedTensor.Proofs.Layout
import SharedTensor.Store.Adoption
import SharedTensor.Store.Exchange
import SharedTensor.Store.View

/-!
# What an operation has done

The small changes that the operations of a store are made of, and what follows from the success of
each operation: the checks that have been passed and the store that results.
-/

namespace SharedTensor

/-- The record of an exported storage. -/
def Header.exported (h : Header) (id : StorageId) : Record :=
  { h with origin := .exported, hasDeleter := true, context := some id }

/-- The record of a producer. -/
def Header.produced (h : Header) (producer : String) (hasDeleter : Bool) : Record :=
  { h with origin := .produced producer, hasDeleter, context := none }

namespace Store

/-- One reference to a storage fewer. -/
def lower (s : Store) (id : StorageId) : Store :=
  { s with storages := s.storages.update id fun st => { st with references := st.references - 1 } }

/-- Takes a storage out, before anything is done for its release. -/
def forget (s : Store) (id : StorageId) : Store :=
  { s with
    storages := s.storages.erase id
    counters := { s.counters with
      live := s.counters.live - 1
      released := s.counters.released + 1 } }

/-- Gives the storage to an owner who is told of its release. -/
def bind (s : Store) (id : StorageId) (owner : Owner) : Store :=
  { s with storages := s.storages.update id fun st => { st with release := .external owner } }

/-- Takes in the record of an export. -/
def publish (s : Store) (record : Record) : Store :=
  { s with
    records := s.records.add record
    counters := { s.counters with exports := s.counters.exports + 1 } }

/-- Takes in a record of someone else's. -/
def receive (s : Store) (record : Record) : Store :=
  { s with records := s.records.add record }

/-- Replaces what a record says of its tensor. -/
def overwrite (s : Store) (r : RecordId) (header : Header) : Store :=
  { s with records := s.records.update r fun record => { record with toHeader := header } }

end Store

/-! ## Chains of steps -/

/-- A chain of steps succeeds if all of them do. -/
theorem bind_eq_ok_iff {α β : Type} {x : Except Fault α} {f : α → Except Fault β} {b : β} :
    (x >>= f) = .ok b ↔ ∃ a, x = .ok a ∧ f a = .ok b := by
  cases x with
  | error e => exact ⟨nofun, nofun⟩
  | ok a => exact ⟨fun h => ⟨a, rfl, h⟩, fun ⟨_, ha, h⟩ => Except.ok.inj ha ▸ h⟩

/-- What is made of the result of a step is made if the step succeeds. -/
theorem map_eq_ok_iff {α β : Type} {x : Except Fault α} {f : α → β} {b : β} :
    x.map f = .ok b ↔ ∃ a, x = .ok a ∧ f a = b := by
  cases x with
  | error e => exact ⟨nofun, nofun⟩
  | ok a => exact ⟨fun h => ⟨a, rfl, Except.ok.inj h⟩, fun ⟨_, ha, h⟩ =>
      congrArg Except.ok (Except.ok.inj ha ▸ h)⟩

/-! ## Descriptors and blocks -/

namespace Descriptor

/-- What is made is a valid layout, which begins at the start of the buffer. -/
theorem make_eq_ok {shape : List Int64} {strides : Option (List Int64)} {t : ElementType}
    {device : Device} {d : Descriptor} (h : make shape strides t device = .ok d) :
    d.validate = .ok () ∧
      d = ⟨⟨shape, strides.getD (Layout.rowMajorStrides shape)⟩, 0, t, device⟩ := by
  simp only [make] at h
  split at h
  · cases h
  · next hv =>
    cases h
    exact ⟨hv, rfl⟩

/-- **The bytes of a buffer** are those of the elements that it must hold, behind the byte offset. A
buffer has a size if that is a word. -/
theorem bufferSize_eq_ok_iff {d : Descriptor} {size : Nat} :
    d.bufferSize = .ok size ↔
      d.validate = .ok () ∧ ∃ n, d.required = .ok n ∧
        size = n * d.elementType.size + d.byteOffset.toNat ∧ size < wordCount := by
  constructor
  · intro h
    unfold bufferSize at h
    split at h
    · cases h
    · next valid =>
      split at h
      · cases h
      · next bytes hbytes =>
        split at h
        · next bound =>
          unfold requiredBytes at hbytes
          split at hbytes
          · cases hbytes
          · next n required =>
            split at hbytes
            · cases hbytes
              cases h
              exact ⟨valid, n, required, rfl, bound⟩
            · cases hbytes
        · cases h
  · rintro ⟨valid, n, required, rfl, bound⟩
    have bytes : d.requiredBytes = .ok (n * d.elementType.size) := by
      rw [requiredBytes, required]
      exact if_pos (by omega)
    rw [bufferSize, valid, bytes]
    exact if_pos bound

end Descriptor

theorem Header.descriptor_eq_ok {h : Header} {d : Descriptor} (ok : h.descriptor = .ok d) :
    d.validate = .ok () := by
  simp only [descriptor, bind, Except.bind] at ok
  split at ok
  · cases ok
  · split at ok
    · cases ok
    · split at ok
      · cases ok
      · split at ok
        · cases ok
        · split at ok
          · cases ok
          · next hd =>
            cases ok
            exact (Descriptor.make_eq_ok hd).1

/-- The pool is charged with the bytes of the block. -/
theorem HostAllocator.allocated_of_allocate {a : HostAllocator} {h h' : Host} {size : Nat}
    {b : Block} (ok : a.allocate h size = .ok (b, h')) :
    h'.pool.allocated = h.pool.allocated + b.size := by
  rw [pool_eq_of_allocate ok, (allocate_eq_ok ok).1]
  split
  · next zero => rw [zero, Nat.add_zero]
  · rfl

namespace Store

variable {s s' : Store} {c : Config} {h h' : Handle} {d : Descriptor} {data : Pointer}

theorem resolve_eq_ok {operation : String} {id : StorageId} {st : Storage}
    (ok : s.resolve h operation = .ok (id, st)) :
    h = ⟨some id⟩ ∧ s.storages.get? id = some st := by
  obtain ⟨target⟩ := h
  cases target with
  | none => simp [resolve] at ok
  | some i => cases hi : s.storages.get? i <;> simp_all [resolve]

theorem resolve_of_live {id : StorageId} {st : Storage} (live : s.storages.get? id = some st)
    (operation : String) : s.resolve ⟨some id⟩ operation = .ok (id, st) := by
  simp [resolve, live]

theorem freshBlock_eq_ok {block : Block} {host : Host} (ok : s.freshBlock c d = .ok (block, host)) :
    d.validate = .ok () ∧ host.pool.allocated = s.host.pool.allocated + block.size := by
  obtain ⟨sized, a, -, allocated⟩ := freshBlock_eq_ok_iff.1 ok
  exact ⟨(Descriptor.bufferSize_eq_ok_iff.1 sized).1, HostAllocator.allocated_of_allocate allocated⟩

theorem exists_freshBlock_of_allocate (ok : s.allocate c d = .ok (h', s')) :
    ∃ block host, s.freshBlock c d = .ok (block, host) ∧
      (h', s') = { s with host }.add d (.toStart block) (.owned block) := by
  unfold allocate at ok
  split at ok
  · cases ok
  · next block host fresh => exact ⟨block, host, fresh, (Except.ok.inj ok).symm⟩

theorem allocate_eq_ok (ok : s.allocate c d = .ok (h', s')) :
    ∃ block host, d.validate = .ok () ∧
      host.pool.allocated = s.host.pool.allocated + block.size ∧
      (h', s') = { s with host }.add d (.toStart block) (.owned block) := by
  obtain ⟨block, host, fresh, made⟩ := exists_freshBlock_of_allocate ok
  obtain ⟨valid, charged⟩ := freshBlock_eq_ok fresh
  exact ⟨block, host, valid, charged, made⟩

theorem empty_eq_ok {shape : List Int64} {t : ElementType} {device : Device}
    (ok : s.empty c shape t device = .ok (h', s')) :
    ∃ d, s.allocate c d = .ok (h', s') := by
  unfold empty at ok
  split at ok
  · cases ok
  · exact ⟨_, ok⟩

theorem ofList_eq_ok {t : Scalar} {values : List t.Value} {shape : List Int64}
    (ok : s.ofList c t values shape = .ok (h', s')) :
    ∃ d block host, d.validate = .ok () ∧
      host.pool.allocated = s.host.pool.allocated + block.size ∧
      (h', s') = { s with host }.add d (.toStart block) (.owned block) := by
  unfold ofList at ok
  split at ok
  · cases ok
  · next d _ =>
    split at ok
    · cases ok
    · split at ok
      · cases ok
      · next block host hblock =>
        obtain ⟨hv, hp⟩ := freshBlock_eq_ok hblock
        refine ⟨d, block, _, hv, ?_, (Except.ok.inj ok).symm⟩
        exact hp

theorem ofParts_eq_ok (ok : s.ofParts c d data = .ok (h', s')) :
    d.validate = .ok () ∧ (h', s') = s.add d data .unowned := by
  unfold ofParts at ok
  split at ok
  · cases ok
  · next hv =>
    split at ok
    · cases ok
    · exact ⟨hv, (Except.ok.inj ok).symm⟩

theorem view_eq_ok {r : ViewRequest} (ok : s.view c h r = .ok (h', s')) :
    ∃ id source, h = ⟨some id⟩ ∧ s.storages.get? id = some source ∧
      (r.descriptor source.descriptor).validate = .ok () ∧
      (h', s') = (s.retain id).add (r.descriptor source.descriptor) (r.data.getD source.data)
        (.view id) := by
  simp only [view] at ok
  split at ok
  · cases ok
  · next id source hresolve =>
    obtain ⟨hh, hs⟩ := resolve_eq_ok hresolve
    split at ok
    · cases ok
    · split at ok
      · cases ok
      · next hv =>
        split at ok
        · cases ok
        · exact ⟨id, source, hh, hs, hv, (Except.ok.inj ok).symm⟩

theorem adopt_eq_ok {owner : Owner} (ok : s.adopt h owner = .ok s') :
    ∃ id st, h = ⟨some id⟩ ∧ s.storages.get? id = some st ∧ st.references = 1 ∧
      st.release = .unowned ∧ s' = s.bind id owner := by
  unfold adopt at ok
  split at ok
  · cases ok
  · next id st hresolve =>
    obtain ⟨hh, hs⟩ := resolve_eq_ok hresolve
    split at ok
    · cases ok
    · split at ok
      · cases ok
      · next h1 hr =>
        exact ⟨id, st, hh, hs, Decidable.not_not.1 h1, Decidable.not_not.1 hr,
          (Except.ok.inj ok).symm⟩

theorem adoptNamed_eq_ok {deleters : Deleters} {name : String} {context : CallbackContext}
    (ok : s.adoptNamed deleters h name context = .ok s') :
    ∃ callback, deleters.get? name = some callback ∧
      s.adopt h (.callback callback context) = .ok s' := by
  unfold adoptNamed at ok
  split at ok
  · cases ok
  · next callback hn => exact ⟨callback, hn, ok⟩

theorem exportRecord_eq_ok {r : RecordId} (ok : s.exportRecord c h = .ok (r, s')) :
    ∃ (id : StorageId) (st : Storage) (header : Header),
      h = ⟨some id⟩ ∧ s.storages.get? id = some st ∧
      (r, s') = (s.records.next, (s.retain id).publish (header.exported id)) := by
  unfold exportRecord at ok
  split at ok
  · cases ok
  · next id st hresolve =>
    obtain ⟨hh, hs⟩ := resolve_eq_ok hresolve
    split at ok
    · cases ok
    · next header _ =>
      refine ⟨id, st, _, hh, hs, (Except.ok.inj ok).symm⟩

/-- A record can be imported as what it describes, unless its data are missing. -/
theorem descriptor_of_importable {record : Record} (ok : importable c record = .ok d) :
    record.descriptor = .ok d ∧
      (record.data.isNull → 0 < d.count → c.safety.checkNullData = false) := by
  unfold importable at ok
  split at ok
  · cases ok
  · next d' hd =>
    split at ok
    · cases ok
    · next accepted =>
      obtain rfl := Except.ok.inj ok
      refine ⟨hd, fun null count => Bool.eq_false_iff.2 fun check => ?_⟩
      exact accepted ⟨null, count, check⟩

theorem importable_eq_ok {record : Record} (ok : importable c record = .ok d) :
    d.validate = .ok () :=
  Header.descriptor_eq_ok (descriptor_of_importable ok).1

/-! ## Drops -/

theorem drop_of_many {id : StorageId} {st : Storage} (live : s.storages.get? id = some st)
    (many : 1 < st.references) : s.drop id = s.lower id := by
  rw [drop, live]
  simp only [if_pos many]
  rfl

/-- With the last reference the storage goes, and what it leaves over is dropped. -/
theorem drop_of_last {id : StorageId} {st : Storage} (live : s.storages.get? id = some st)
    (last : ¬ 1 < st.references) :
    s.drop id = (s.retire id st).1.dropAll (s.retire id st).2.toList := by
  rw [drop, live]
  simp only [if_neg last]
  cases (s.retire id st).2 <;> rfl

/-! ## Imports -/

/-- The store that a record without a deleter is announced to. -/
def announce (s : Store) (r : RecordId) (record : Record) : Store :=
  if record.hasDeleter then s else s.tell (.undeletable r)

theorem importRecord_cases {r : RecordId} {record : Record}
    (hr : s.records.get? r = some record) :
    (∃ f, s.importRecord c r = (.error f, s.dropRecord r)) ∨
      ∃ d, importable c record = .ok d ∧
        s.importRecord c r = (.ok ⟨some s.storages.next⟩,
          ((s.announce r record).add d record.data (.foreign r)).2) := by
  unfold importRecord
  rw [hr]
  cases hi : importable c record with
  | error f => exact .inl ⟨f, by simp [hi]⟩
  | ok d =>
    refine .inr ⟨d, rfl, ?_⟩
    simp only [hi, announce]
    cases record.hasDeleter <;> rfl

end Store

end SharedTensor
