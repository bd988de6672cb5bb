import SharedTensor.Proofs.BufferSize
import SharedTensor.Proofs.Client.Preserve
import SharedTensor.Proofs.Gather

/-!
# Fresh tensors

A tensor over fresh memory has a buffer of exact size, so what it reaches is found inside the
buffer, and as no block lies at the null address, it can be read at once
(`Storage.readable_of_fresh`). Fresh memory is zero, and zero is what is read
(`Store.gather_of_zero`). Whatever oversteps is refused for its shape, before the device is looked
at. All of this is said of every state that a client comes to (`Client.fresh_buffers_fit`).
-/

namespace SharedTensor

/-! ## Zero memory -/

theorem ofBytes_replicate_zero (n : Nat) : ofBytes n (List.replicate n 0) = 0#(8 * n) := by
  induction n with
  | zero => rfl
  | succ n ih =>
    rw [List.replicate_succ, ofBytes, List.tail_cons, ih, List.headD_cons]
    exact BitVec.zero_append_zero

theorem Memory.load_of_zero {m : Memory} {n address : Nat}
    (zero : ∀ i < n, m.byte (address + i) = 0) : m.load n address = 0 := by
  have bytes : m.read address n = List.replicate n 0 := by
    refine List.eq_replicate_iff.2 ⟨m.length_read address n, fun b mem => ?_⟩
    obtain ⟨i, below, rfl⟩ := List.mem_map.1 mem
    exact zero i (List.mem_range.1 below)
  rw [load, bytes]
  exact ofBytes_replicate_zero n

/-- A tensor over zero memory is read as zeros, as many as it has elements. -/
theorem Store.gather_of_zero {s : Store} {id : StorageId} {st : Storage} {t : Scalar}
    (live : s.storages.get? id = some st) (readable : st.Readable t)
    (zero : ∀ a, st.extent.start ≤ a → a < st.extent.stop → s.host.memory.byte a = 0) :
    s.gather t ⟨some id⟩ = .ok (List.replicate st.descriptor.count 0) := by
  rw [gather_of_readable live readable]
  congr 1
  refine List.eq_replicate_iff.2 ⟨?_, fun value mem => ?_⟩
  · rw [Memory.loadAt, List.length_map, readable.length_readOffsets]
  · obtain ⟨offset, read, rfl⟩ := List.mem_map.1 mem
    obtain ⟨address, -, found, start, stop, -⟩ := readable.exists_address read
    rw [found, Int.toNat_natCast]
    exact Memory.load_of_zero fun i inside => zero _ (by omega) (by omega)

/-! ## Fresh storages -/

/-- **A tensor over a fresh block can be read**, if its first element is aligned in the block. -/
theorem Storage.readable_of_fresh {st : Storage} {b : Block} {m : Memory} {t : Scalar}
    (fresh : b.Fresh m) (sized : st.descriptor.bufferSize = .ok b.size)
    (data : st.data = .toStart b) (extent : st.extent = .ofBlock b)
    (host : st.descriptor.device.isHostAccessible)
    (type : st.descriptor.elementType = t.elementType)
    (aligned : t.size ∣ st.descriptor.byteOffset.toNat) : st.Readable t := by
  have admitted : st.extent.admit st.descriptor st.data = .ok () := by
    rw [data, extent]
    exact Descriptor.admit_ofBlock sized fresh.bound
  refine ⟨host, type, fun filled null => ?_, admitted, fun filled => ?_⟩
  · -- elements of a scalar type have bytes, so the block has
    rcases Descriptor.bufferSize_cases sized with ⟨none, -⟩ | ⟨-, high, -, -, -, -, size⟩
    · exact filled.ne' none
    · have bytes : 0 < (high + 1) * st.descriptor.elementType.size := by
        rw [type, Scalar.size_elementType]
        exact Nat.mul_pos high.succ_pos t.size_pos
      rw [data, Pointer.isNull_toStart_iff fresh.bound] at null
      exact (fresh.start (by omega)).ne' null
  · rcases Extent.admit_eq_ok admitted with nothing | ⟨reached, reach, -⟩
    · exact absurd (Layout.count_eq_zero_iff.2 (Descriptor.reach_eq_none nothing)) filled.ne'
    · rw [Store.toNat_base reach, data, Pointer.toNat_toStart fresh.bound]
      exact Nat.dvd_add (t.size_dvd_line.trans fresh.aligned) aligned

namespace Client

/-- **Fresh buffers fit.** Whenever a client asks for a tensor of any layout, byte offset and element
type and gets one, its buffer has as many bytes as lie before the elements, if there are none, and
otherwise ends with the element of the greatest offset; no shorter buffer holds the bytes of all
elements. What the tensor reaches is inside the buffer, and if its first element is aligned, it is
read as zeros, as many as it has elements. If ranks agree, a layout that oversteps is refused for its
shape, whatever its device. -/
theorem fresh_buffers_fit (turns : List Turn) (c : Config) (d : Descriptor) :
    let s := (play {} turns).store
    (∀ h s', s.allocate c d = .ok (h, s') →
      ∃ id st block, h = ⟨some id⟩ ∧ s'.storages.get? id = some st ∧
        st.descriptor = d ∧ st.data = .toStart block ∧ st.release = .owned block ∧
        Layout.countOf d.shape = .ok d.count ∧
        (d.count = 0 → block.size = d.byteOffset.toNat) ∧
        (d.count ≠ 0 → ∃ high : Nat, IsGreatest d.offsetSet high ∧
          block.size = d.byteOffset.toNat + (high + 1) * d.elementType.size ∧
          (d.elementType.size ≠ 0 →
            IsLeast {length : Nat | ∀ place ∈ d.byteSet, 0 ≤ place ∧ place < length}
              block.size)) ∧
        st.extent.admit st.descriptor st.data = .ok () ∧
        ∀ t : Scalar, d.elementType = t.elementType → t.size ∣ d.byteOffset.toNat →
          s'.gather t h = .ok (List.replicate d.count 0)) ∧
      (d.shape.length = d.strides.length → d.Oversteps →
        ∃ f, s.allocate c d = .error f ∧ f.kind = .invalidShape) := by
  intro s
  refine ⟨fun h s' ok => ?_, fun agree oversteps => ?_⟩
  · obtain ⟨block, host, allocated, made⟩ := Store.exists_freshBlock_of_allocate ok
    have fresh := Store.fresh_of_freshBlock allocated (frontier_pos_play turns)
    have sized := (Store.freshBlock_spec allocated).1
    have sizes := Descriptor.bufferSize_cases sized
    obtain ⟨valid, -⟩ := Descriptor.bufferSize_eq_ok_iff.1 sized
    obtain ⟨-, count⟩ := Layout.countOf_of_validate valid
    cases made
    let st : Storage := ⟨.toStart block, d, .ofBlock block, .owned block, 1⟩
    have live : ({ s with host }.add d (.toStart block) (.owned block)).2.storages.get?
        s.storages.next = some st := (Store.get?_add ..).trans (if_pos rfl)
    refine ⟨_, st, block, rfl, live, rfl, rfl, rfl, count, fun none => ?_, fun filled => ?_,
      Descriptor.admit_ofBlock sized fresh.bound, fun t type aligned => ?_⟩
    · rcases sizes with ⟨-, size⟩ | ⟨filled, -⟩
      · exact size
      · exact absurd none filled
    · rcases sizes with ⟨none, -⟩ | ⟨-, high, least, greatest, -, -, size⟩
      · exact absurd none filled
      · exact ⟨high, greatest, size, fun bytes =>
          size ▸ Descriptor.isLeast_bufferSize least greatest bytes⟩
    · have readable : st.Readable t := Storage.readable_of_fresh fresh sized rfl rfl
        (Store.isHostAccessible_of_freshBlock allocated) type aligned
      exact Store.gather_of_zero live readable fresh.zero
  · obtain ⟨f, refused, kind⟩ := Descriptor.exists_refusal_of_oversteps agree oversteps
    exact ⟨f, by rw [Store.allocate, Store.freshBlock, refused], kind⟩

/-- Padded rows behind a header, in a store that holds another tensor; and a row that is read
backwards, on a device out of reach of the host. -/
theorem fresh_buffers_fit_padded :
    let s := (play {} [.move (.empty [4] .uint8 .cpu)]).store
    let d : Descriptor := ⟨⟨[2, 3], [4, 1]⟩, 8, .float32, .cpu⟩
    let backwards : Descriptor := ⟨⟨[2], [-1]⟩, 0, .float32, .cuda 0⟩
    (∃ h s' id st block, s.allocate {} d = .ok (h, s') ∧ h = ⟨some id⟩ ∧
      s'.storages.get? id = some st ∧ st.release = .owned block ∧ block.size = 36 ∧
      s'.gather .float32 h = .ok [0, 0, 0, 0, 0, 0]) ∧
      ∃ f, s.allocate {} backwards = .error f ∧ f.kind = .invalidShape := by
  intro s d backwards
  obtain ⟨⟨h, s'⟩, ok⟩ := exists_of_isOk (by decide +kernel : (s.allocate {} d).isOk)
  obtain ⟨fits, -⟩ := fresh_buffers_fit [.move (.empty [4] .uint8 .cpu)] {} d
  obtain ⟨-, refused⟩ := fresh_buffers_fit [.move (.empty [4] .uint8 .cpu)] {} backwards
  obtain ⟨id, st, block, hid, live, -, -, release, -, -, size, -, zeros⟩ := fits h s' ok
  obtain ⟨high, greatest, size, -⟩ := size (by decide)
  have spanned : d.span = .ok (some ⟨0, 6⟩) := by decide +kernel
  have spanned' : backwards.span = .ok (some ⟨-1, 0⟩) := by decide +kernel
  obtain ⟨-, -, last, -⟩ := Layout.ends_of_span spanned
  obtain ⟨-, first, -⟩ := Layout.ends_of_span spanned'
  obtain rfl : high = 6 := Int.ofNat.inj (greatest.unique last)
  exact ⟨⟨h, s', id, st, block, ok, hid, live, release, size.trans (by decide),
    zeros .float32 rfl (by decide)⟩, refused rfl (.before first (by decide) (by decide))⟩

end Client

end SharedTensor
