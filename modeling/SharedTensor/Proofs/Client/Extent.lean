import SharedTensor.Proofs.Client.Keep
import SharedTensor.Proofs.Read

/-!
# Reads stay in the buffer

A storage has the extent of the one that it links to, and one without a link has the range of its
own buffer (`Store.Measured`). Effects preserve this, as they change neither extents nor links, so
the extent of every storage is the range of the storage at its root (`extent_eq_range`), and nothing
outside of it is ever read (`reads_inside_range`).
-/

namespace SharedTensor

/-- The bytes of the buffer that a storage was made for: the block that was allocated, or what the
storage reaches in memory that belongs to someone else. -/
def Storage.range (st : Storage) : Extent :=
  match st.release with
  | .owned block => .ofBlock block
  | _ => .vouched st.descriptor st.data

namespace Store

variable {s : Store}

/-- Every extent is what it would be if the storage were made now. -/
def Measured (s : Store) : Prop :=
  ∀ id st, s.storages.get? id = some st →
    st.extent = s.extentFor st.descriptor st.data st.release

theorem extentFor_of_source {release : Release} {j : StorageId} {st : Storage}
    (source : s.source? release = some j) (live : s.storages.get? j = some st) (d : Descriptor)
    (data : Pointer) : s.extentFor d data release = st.extent := by
  rcases source?_eq_some_iff.1 source with rfl | ⟨r, rfl, exported⟩
  · simp only [extentFor, live]
  · have hexporter : s.exporter? r = some st :=
      Option.bind_eq_some_iff.2 ⟨j, exported, live⟩
    simp only [extentFor, hexporter]

theorem extentFor_of_root {st : Storage} (root : s.source? st.release = none) :
    s.extentFor st.descriptor st.data st.release = st.range := by
  unfold Storage.range
  cases hr : st.release with
  | owned | unowned | external => rfl
  | view parent => simp [hr, source?] at root
  | foreign r =>
    rw [hr] at root
    have hexporter : s.exporter? r = none := by
      rw [exporter?]
      exact Option.bind_eq_none_iff.2 fun j hj => by simp [source?, exportedFrom?, hj] at root
    simp only [extentFor, hexporter]

/-- A storage has the extent of the one that it links to. -/
theorem Measured.extent_of_link (h : s.Measured) {i j : StorageId} {st other : Storage}
    (live : s.storages.get? i = some st) (live' : s.storages.get? j = some other)
    (link : s.link? i = some j) : st.extent = other.extent := by
  obtain ⟨st', hst', source⟩ := link?_eq_some_iff.1 link
  obtain rfl : st = st' := Option.some.inj (live.symm.trans hst')
  rw [h i st live, extentFor_of_source source live']

/-- A storage without a link has the range of its buffer. -/
theorem Measured.extent_of_root (h : s.Measured) {i : StorageId} {st : Storage}
    (live : s.storages.get? i = some st) (root : s.link? i = none) : st.extent = st.range := by
  rw [link?, live, Option.bind_some] at root
  rw [h i st live, extentFor_of_root root]

end Store

namespace Client

variable {c c' : Client}

/-- What a release gives back to is the same before and after an effect, as long as the record that
it may delete is there. -/
theorem Effect.source?_eq (e : Effect c c') (h : Balanced c) {release : Release}
    (before : ∀ r, release = .foreign r → ∃ record, c.store.records.get? r = some record)
    (after : ∀ r, release = .foreign r → ∃ record, c'.store.records.get? r = some record) :
    c'.store.source? release = c.store.source? release := by
  cases release with
  | owned | unowned | view | external => rfl
  | foreign r =>
    obtain ⟨record, found⟩ := before r rfl
    obtain ⟨record', found'⟩ := after r rfl
    simp only [Store.source?, Store.exportedFrom?, found, found', Option.bind_some,
      (e.record_kept h found found').exporter?_eq]

theorem Effect.measured (e : Effect c c') (h : Balanced c) (m : c.store.Measured) :
    c'.store.Measured := by
  intro id st' found
  have h' := e.balanced h
  have after : ∀ r, st'.release = .foreign r → ∃ record, c'.store.records.get? r = some record :=
    fun r foreign => h'.exists_of_foreign found foreign
  -- before the effect the extent was right, for the new storage too
  obtain ⟨before, right⟩ :
      (∀ r, st'.release = .foreign r → ∃ record, c.store.records.get? r = some record) ∧
        st'.extent = c.store.extentFor st'.descriptor st'.data st'.release := by
    rcases e.storage_cases h found with ⟨st, live, kept⟩ | ⟨_, fresh⟩
    · rcases kept.release with same | ⟨unowned, owner, external⟩
      · rw [same, kept.descriptor, kept.data, kept.extent]
        exact ⟨fun r foreign => h.exists_of_foreign live foreign, m id st live⟩
      · rw [external, kept.descriptor, kept.data, kept.extent, m id st live, unowned]
        exact ⟨fun r foreign => (by cases foreign), rfl⟩
    · cases fresh with
      | owned | unowned | view => exact ⟨fun r foreign => (by cases foreign), rfl⟩
      | foreign _ _ hr =>
        refine ⟨fun r foreign => ?_, rfl⟩
        obtain rfl := Release.foreign.inj foreign
        exact ⟨_, hr⟩
  have source := e.source?_eq h before after
  rw [right]
  cases hs : c'.store.source? st'.release with
  | none =>
    rw [Store.extentFor_of_root hs, Store.extentFor_of_root (source.symm.trans hs)]
  | some j =>
    have link : c'.store.link? id = some j := Store.link?_eq_some_iff.2 ⟨st', found, hs⟩
    obtain ⟨other', live'⟩ := h'.live_of_link link
    obtain ⟨other, live⟩ : ∃ other, c.store.storages.get? j = some other := by
      rcases e.link_cases h link with old | ⟨_, live⟩
      · exact h.live_of_link old
      · exact live
    rw [Store.extentFor_of_source hs live', Store.extentFor_of_source (source.symm.trans hs) live,
      (e.storage_kept h live live').extent]

theorem measured_run (moves : List Move) : (run {} moves).store.Measured := by
  refine run_induction balanced_empty ?_ (fun e h m => e.measured h m) moves
  intro id st found
  cases found

/-- **The extent of a storage is the range of the storage at its root.** -/
theorem extent_eq_range (h : Balanced c) (m : c.store.Measured) {id root : StorageId}
    {st : Storage} (live : c.store.storages.get? id = some st)
    (isRoot : c.store.IsRootOf root id) :
    ∃ buffer, c.store.storages.get? root = some buffer ∧ st.extent = buffer.range := by
  obtain ⟨reaches, noLink⟩ := isRoot
  induction reaches using Relation.ReflTransGen.head_induction_on generalizing st with
  | refl => exact ⟨st, live, m.extent_of_root live noLink⟩
  | head link _ ih =>
    obtain ⟨other, live'⟩ := h.live_of_link link
    obtain ⟨buffer, hbuffer, heq⟩ := ih live'
    exact ⟨buffer, hbuffer, (m.extent_of_link live live' link).trans heq⟩

/-- **What is read of a tensor lies in the buffer at its root, and depends on nothing outside.** The
two ways of reading are in one run and by walking. -/
theorem reads_inside_range (moves : List Move) (id : StorageId) (t : Scalar) (values : List t.Value)
    (read : Store → (t : Scalar) → Handle → Except Fault (List t.Value))
    (way : read = Store.elements ∨ read = Store.gather)
    (ok : read (run {} moves).store t ⟨some id⟩ = .ok values) :
    let s := (run {} moves).store
    ∃ root buffer, s.IsRootOf root id ∧ s.storages.get? root = some buffer ∧
      (∃ base offsets, values = s.host.memory.loadAt t.size base offsets ∧
        ∀ address ∈ touched t.size base offsets,
          buffer.range.start ≤ address ∧ address < buffer.range.stop) ∧
      ∀ memory : Memory,
        (∀ address, buffer.range.start ≤ address → address < buffer.range.stop →
          memory.byte address = s.host.memory.byte address) →
        read (s.withMemory memory) t ⟨some id⟩ = .ok values := by
  intro s
  have h : Balanced (run {} moves) := balanced_run balanced_empty moves
  obtain ⟨root, isRoot⟩ := (descending_run moves).exists_root id
  -- both ways read at the offsets of the tensor
  obtain ⟨st, live, hsize, hadmit, hread⟩ : ∃ st, s.storages.get? id = some st ∧
      st.descriptor.elementType.size = t.size ∧
      st.extent.admit st.descriptor st.data = .ok () ∧
      ∀ memory, read (s.withMemory memory) t ⟨some id⟩ =
        .ok (memory.loadAt t.size (Store.base st).toNat st.readOffsets) := by
    rcases way with rfl | rfl
    · obtain ⟨i, st, hi, found⟩ := Store.elements_eq_ok ok
      obtain rfl : id = i := by simpa using hi
      exact ⟨st, found⟩
    · obtain ⟨i, st, hi, found⟩ := Store.gather_eq_ok ok
      obtain rfl : id = i := by simpa using hi
      exact ⟨st, found⟩
  obtain ⟨buffer, hbuffer, hextent⟩ := extent_eq_range h (measured_run moves) live isRoot
  have inside := touched_mem_extent hsize hadmit
  rw [hextent] at inside
  have hvalues : values = s.host.memory.loadAt t.size (Store.base st).toNat st.readOffsets :=
    Except.ok.inj (ok.symm.trans (hread s.host.memory))
  refine ⟨root, buffer, isRoot, hbuffer, ⟨_, _, hvalues, inside⟩, fun memory same => ?_⟩
  rw [hread memory, hvalues]
  refine congrArg Except.ok (loadAt_congr (fun address mem => ?_) fun address mem => ?_)
  · exact (Int.natCast_nonneg _).trans (inside address mem).1
  · obtain ⟨low, high⟩ := inside address mem
    exact same address.toNat (by omega) (by omega)

/-- A tensor read from its last element to its first, through a view of a tensor taken in again. -/
theorem reads_inside_range_reversed :
    let moves : List Move := [.ofList .uint8 [1, 2, 3] [3], .exportHandle ⟨some 0⟩,
      .importManaged 0, .view ⟨some 1⟩
        { strides := some [-1], data := some ⟨70368744177666, ⟨70368744177664, 3⟩⟩ }]
    let s := (run {} moves).store
    (s.gather .uint8 ⟨some 2⟩).toOption = some [3, 2, 1] ∧
      ∃ root buffer, s.IsRootOf root 2 ∧ s.storages.get? root = some buffer ∧
        ∀ memory : Memory,
          (∀ address, buffer.range.start ≤ address → address < buffer.range.stop →
            memory.byte address = s.host.memory.byte address) →
          ((s.withMemory memory).gather .uint8 ⟨some 2⟩).toOption = some [3, 2, 1] := by
  intro moves s
  have hread : (s.gather .uint8 ⟨some 2⟩).toOption = some [3, 2, 1] := by decide +kernel
  obtain ⟨values, ok⟩ : ∃ values, s.gather .uint8 ⟨some 2⟩ = .ok values := by
    cases hs : s.gather .uint8 ⟨some 2⟩ with
    | error f => simp [hs, Except.toOption] at hread
    | ok values => exact ⟨values, rfl⟩
  obtain ⟨root, buffer, isRoot, live, _, same⟩ :=
    reads_inside_range moves 2 .uint8 values Store.gather (.inr rfl) ok
  refine ⟨hread, root, buffer, isRoot, live, fun memory agree => ?_⟩
  rw [same memory agree, ← ok]
  exact hread

end Client

end SharedTensor
