import SharedTensor.Proofs.BufferSize
import SharedTensor.Proofs.Client.Storage
import SharedTensor.Proofs.Elements
import SharedTensor.Proofs.Interchange
import SharedTensor.Proofs.Layout.RowMajor

/-!
# Tensors made from lists

The elements of a list are written into a fresh block whose size comes from the shape, not from the
list. As the row-major layout needs room for just its elements, both agree whenever the length is the
number of elements of the shape, and then the list is taken in if the host grants as many bytes as it
has (`Store.exists_ofList_iff`). All other lists are refused for the shape
(`Store.exists_refusal_of_ofList`). What has been taken in is read back as it was
(`Store.reads_of_shows`).
-/

namespace SharedTensor

/-! ## Buffers of row-major tensors -/

/-- The allocator for the host's own memory, aligned as the configuration asks for, grants a request
for so many bytes. -/
def Host.Grants (h : Host) (c : Config) (size : Nat) : Prop :=
  ∃ a granted, HostAllocator.make .cpu c.storage.hostAlignment.toNat = .ok a ∧
    a.allocate h size = .ok granted

theorem HostAllocator.size_le_of_allocate {a : HostAllocator} {h h' : Host} {size : Nat} {b : Block}
    (ok : a.allocate h size = .ok (b, h')) : size ≤ addressLimit := by
  obtain ⟨-, ⟨rfl, -⟩ | ⟨-, -, bound, -⟩⟩ := allocate_eq_ok ok
  · exact Nat.zero_le _
  · omega

variable {shape : List Int64} {n : Nat} {t : Scalar}

namespace Descriptor

/-- The row-major tensor of scalars in the host's own memory. -/
def ofScalars (t : Scalar) (shape : List Int64) : Descriptor :=
  ⟨.rowMajor shape, 0, t.elementType, .cpu⟩

theorem validate_ofScalars (counted : Layout.countOf shape = .ok n) :
    (ofScalars t shape).validate = .ok () :=
  Layout.validate_eq_ok_iff.2 ⟨(Layout.length_rowMajorStrides shape).symm, n, counted⟩

theorem contiguous_of_countOf (counted : Layout.countOf shape = .ok n) :
    contiguous shape t.elementType .cpu = .ok (ofScalars t shape) :=
  make_of_validate (validate_ofScalars counted) rfl

/-- The buffer of a row-major tensor has the bytes of its elements, if memory can be so large. -/
theorem bufferSize_ofScalars (counted : Layout.countOf shape = .ok n)
    (fits : n * t.size ≤ addressLimit) : (ofScalars t shape).bufferSize = .ok (n * t.size) := by
  have limit : addressLimit = 2 ^ 56 := by decide
  have words : wordCount = 2 ^ 64 := by decide
  have few : n ≤ n * t.size := Nat.le_mul_of_pos_right n t.size_pos
  refine bufferSize_eq_ok_iff.2 ⟨validate_ofScalars counted, n, ?_, ?_, by omega⟩
  · exact (Layout.required_rowMajor counted).trans (if_pos (by omega))
  · change n * t.size = n * t.elementType.size + 0
    rw [t.size_elementType, Nat.add_zero]

theorem eq_of_bufferSize_ofScalars {size : Nat} (counted : Layout.countOf shape = .ok n)
    (sized : (ofScalars t shape).bufferSize = .ok size) : size = n * t.size := by
  obtain ⟨-, k, required, rfl, -⟩ := bufferSize_eq_ok_iff.1 sized
  obtain rfl : k = n := Layout.eq_of_required_rowMajor counted required
  change k * t.elementType.size + 0 = k * t.size
  rw [t.size_elementType, Nat.add_zero]

end Descriptor

namespace Store

variable {s s' : Store} {h : Handle} {c : Config} {data : List t.Value} {id : StorageId}
  {st : Storage} {b : Block}

/-- A row-major tensor gets a block if the host grants the bytes of its elements. -/
theorem exists_freshBlock_iff (counted : Layout.countOf shape = .ok n) :
    (∃ block host, s.freshBlock c (.ofScalars t shape) = .ok (block, host)) ↔
      s.host.Grants c (n * t.size) := by
  constructor
  · rintro ⟨block, host, fresh⟩
    obtain ⟨sized, a, made, allocated⟩ := freshBlock_eq_ok_iff.1 fresh
    rw [← Descriptor.eq_of_bufferSize_ofScalars counted sized]
    exact ⟨a, _, made, allocated⟩
  · rintro ⟨a, ⟨block, host⟩, made, allocated⟩
    have size := (HostAllocator.allocate_eq_ok allocated).1
    have sized := Descriptor.bufferSize_ofScalars (t := t) counted
      (HostAllocator.size_le_of_allocate allocated)
    rw [← size] at sized allocated
    exact ⟨block, host, freshBlock_eq_ok_iff.2 ⟨sized, a, made, allocated⟩⟩

/-! ## Taking a list in -/

/-- The host once the list has been written into a block. -/
def written (t : Scalar) (data : List t.Value) (block : Block) (host : Host) : Host :=
  { host with memory := host.memory.write block.start (data.flatMap (bytesOf t.size)) }

/-- The store once the list has been taken in. -/
def afterOfList (s : Store) (t : Scalar) (data : List t.Value) (shape : List Int64) (block : Block)
    (host : Host) : Store :=
  ({ s with host := written t data block host }.add (.ofScalars t shape) (.toStart block)
    (.owned block)).2

theorem get?_afterOfList (s : Store) (t : Scalar) (data : List t.Value) (shape : List Int64)
    (block : Block) (host : Host) :
    (s.afterOfList t data shape block host).storages.get? s.storages.next =
      some ⟨.toStart block, .ofScalars t shape, .ofBlock block, .owned block, 1⟩ :=
  (get?_add ..).trans (if_pos rfl)

theorem ofList_of_countOf (counted : Layout.countOf shape = .ok data.length) :
    s.ofList c t data shape =
      (s.freshBlock c (.ofScalars t shape)).map fun fresh =>
        (⟨some s.storages.next⟩, s.afterOfList t data shape fresh.1 fresh.2) := by
  have length : (Descriptor.ofScalars t shape).count = data.length := Layout.count_eq counted
  rw [ofList, Descriptor.contiguous_of_countOf counted]
  simp only [length, ne_eq, not_true_eq_false, if_false]
  cases s.freshBlock c (.ofScalars t shape) <;> rfl

/-- **A list of another length than the shape has elements is refused for the shape.** -/
theorem exists_refusal_of_ofList (other : Layout.countOf shape ≠ .ok data.length) :
    ∃ f, s.ofList c t data shape = .error f ∧ f.kind = .invalidShape := by
  cases counted : Layout.countOf shape with
  | error f =>
    cases made : Descriptor.contiguous shape t.elementType .cpu with
    | error g =>
      have kind := (Descriptor.refuses_of_contiguous made).resolve_left fun differ =>
        differ.1 (Layout.length_rowMajorStrides shape).symm
      refine ⟨g, ?_, kind⟩
      rw [ofList, made]
    | ok d =>
      obtain ⟨valid, rfl⟩ := Descriptor.make_eq_ok made
      obtain ⟨-, n, counted'⟩ := Layout.validate_eq_ok_iff.1 valid
      cases counted.symm.trans counted'
  | ok n =>
    have length : (Descriptor.ofScalars t shape).count = n := Layout.count_eq counted
    have differ : n ≠ data.length := fun same => other (same ▸ counted)
    refine ⟨.lengthMismatch data.length shape, ?_, rfl⟩
    rw [ofList, Descriptor.contiguous_of_countOf counted]
    simp only [length, if_pos differ]

/-- What has been done once a list is taken in. -/
theorem freshBlock_of_ofList (ok : s.ofList c t data shape = .ok (h, s')) :
    Layout.countOf shape = .ok data.length ∧ ∃ block host,
      s.freshBlock c (.ofScalars t shape) = .ok (block, host) ∧
        block.size = data.length * t.size ∧ h = ⟨some s.storages.next⟩ ∧
        s' = s.afterOfList t data shape block host := by
  have counted : Layout.countOf shape = .ok data.length := by
    by_contra other
    obtain ⟨f, refused, -⟩ := exists_refusal_of_ofList (s := s) (c := c) other
    rw [refused] at ok
    cases ok
  rw [ofList_of_countOf counted, map_eq_ok_iff] at ok
  obtain ⟨⟨block, host⟩, fresh, made⟩ := ok
  cases made
  have size := Descriptor.eq_of_bufferSize_ofScalars counted (freshBlock_spec fresh).1
  exact ⟨counted, block, host, fresh, size, rfl, rfl⟩

/-- **A list is taken in just if it has as many elements as the shape and the host grants its
bytes.** -/
theorem exists_ofList_iff :
    (∃ h s', s.ofList c t data shape = .ok (h, s')) ↔
      Layout.countOf shape = .ok data.length ∧ s.host.Grants c (data.length * t.size) := by
  constructor
  · rintro ⟨h, s', ok⟩
    obtain ⟨counted, block, host, fresh, -⟩ := freshBlock_of_ofList ok
    exact ⟨counted, (exists_freshBlock_iff counted).1 ⟨block, host, fresh⟩⟩
  · rintro ⟨counted, grants⟩
    obtain ⟨block, host, fresh⟩ := (exists_freshBlock_iff counted).2 grants
    rw [ofList_of_countOf counted, fresh]
    exact ⟨_, _, rfl⟩

/-! ## Reading it back -/

/-- **A row-major tensor over a block of elements is read as these elements**, in one run and by
walking. -/
theorem reads_of_shows (live : s.storages.get? id = some st) (shows : st.Shows t b)
    (fits : b.Fits t data.length) (holds : s.host.memory.Holds t b.start data)
    (layout : st.descriptor.toLayout = .rowMajor shape)
    (counted : Layout.countOf shape = .ok data.length) :
    s.elements t ⟨some id⟩ = .ok data ∧ s.gather t ⟨some id⟩ = .ok data := by
  have compact : st.descriptor.isCompact := by
    rw [layout]
    exact decide_eq_true rfl
  have count : st.descriptor.count = data.length := by
    rw [layout]
    exact Layout.count_eq counted
  have offsets := Layout.rowMajor_offsets counted
  have admitted : st.extent.admit st.descriptor st.data = .ok () := by
    refine (shows.admit_iff fits).2 ?_
    rw [layout]
    intro index mem
    have counts : Layout.offset (Layout.rowMajorStrides shape) index ∈
        (List.range data.length).map Int.ofNat := by
      rw [offsets]
      exact List.mem_map_of_mem mem
    obtain ⟨i, below, offset⟩ := List.mem_map.1 counts
    change 0 ≤ Layout.offset (Layout.rowMajorStrides shape) index ∧
      Layout.offset (Layout.rowMajorStrides shape) index < data.length
    rw [← offset]
    exact ⟨Int.natCast_nonneg i, Int.ofNat_lt.2 (List.mem_range.1 below)⟩
  have readable := shows.readable fits admitted fun filled => fits.start (count ▸ filled)
  have loaded : s.host.memory.loadAt t.size (base st).toNat st.readOffsets = data := by
    rw [Storage.readOffsets, if_pos compact, count, shows.toNat_base fits, Memory.loadAt]
    refine List.ext_getElem ?_ fun i _ below => ?_
    · rw [List.length_map, List.length_map, List.length_range]
    · rw [List.getElem_map, List.getElem_map, List.getElem_range, ← holds i below]
      congr 1
  rw [elements_of_readable live readable compact, gather_of_readable live readable, loaded]
  exact ⟨rfl, rfl⟩

end Store

end SharedTensor
