import SharedTensor.Proofs.Elements
import SharedTensor.Proofs.Layout.WordWalk

/-!
# Gathering elements

Reading asks first whether a tensor is readable, and only then looks at its layout. A readable
tensor has a span, since its extent has been compared with what it reaches, so the machine's walk
through it never leaves the words (`Storage.Readable.map_wordOffsets`), and no address on the way
wraps round (`Storage.Readable.exists_address`). What is gathered are the elements of all
multi-indices in row-major order (`Store.gathers_in_row_major_order`).
-/

namespace SharedTensor

/-! ## Spans of what is reached -/

/-- Whatever lies inside an extent has a span. -/
theorem Extent.exists_span_of_admit {e : Extent} {d : Descriptor} {data : Pointer}
    (h : e.admit d data = .ok ()) : ∃ ends, d.span = .ok ends := by
  cases spanned : d.span with
  | ok ends => exact ⟨ends, rfl⟩
  | error f =>
    rw [ Extent.admit, Descriptor.reach, spanned] at h
    cases h

/-! ## Readable tensors -/

namespace Storage.Readable

variable {st : Storage} {t : Scalar}

theorem countOf (readable : st.Readable t) :
    Layout.countOf st.descriptor.shape = .ok st.descriptor.count := by
  obtain ⟨ends, spanned⟩ := Extent.exists_span_of_admit readable.admitted
  exact Layout.countOf_of_span spanned

/-- Elements are read at the offsets of the multi-indices, from the first to the last. -/
theorem readOffsets_eq (readable : st.Readable t) :
    st.readOffsets = (List.range st.descriptor.count).map fun k =>
      Layout.offset st.descriptor.strides (Layout.digits st.descriptor.shape k) := by
  have counted := readable.countOf
  rw [Storage.readOffsets_eq counted, Layout.indices_eq, Layout.size_eq_of_countOf counted,
    List.map_map]
  rfl

theorem length_readOffsets (readable : st.Readable t) :
    st.readOffsets.length = st.descriptor.count := by
  rw [readable.readOffsets_eq, List.length_map, List.length_range]

/-- **The walk through a readable tensor stays in the machine words.** -/
theorem map_wordOffsets (readable : st.Readable t) :
    st.descriptor.wordOffsets.map (List.map Int64.toInt) = some st.readOffsets := by
  obtain ⟨ends, spanned⟩ := Extent.exists_span_of_admit readable.admitted
  rw [Layout.map_wordOffsets spanned, Storage.readOffsets_eq readable.countOf,
    Layout.offsets_eq readable.countOf]

/-- **No address of an element wraps round**, and all its bytes lie in the extent. -/
theorem exists_address (readable : st.Readable t) {offset : Int} (mem : offset ∈ st.readOffsets) :
    ∃ address : Nat,
      (address : Int) = st.data.address.toNat + st.descriptor.byteOffset.toNat + t.size * offset ∧
        ((Store.base st).toNat : Int) + offset * t.size = address ∧
        st.extent.start ≤ address ∧ address + t.size ≤ st.extent.stop ∧
        address + t.size < wordCount := by
  have size : st.descriptor.elementType.size = t.size := readable.elementType ▸ t.size_elementType
  rcases Extent.admit_eq_ok readable.admitted with nothing | ⟨reached, reach, start, stop⟩
  · -- without elements nothing is read
    have none : st.descriptor.count = 0 := Layout.count_eq (Descriptor.reach_eq_none nothing)
    rw [readable.readOffsets_eq, none] at mem
    cases mem
  · obtain ⟨-, ⟨n, counted, -⟩, first, last, bound⟩ := Descriptor.reach_eq_some reach
    obtain ⟨low, high⟩ := Storage.readOffsets_mem counted offset mem
    have base := Store.toNat_base reach
    rw [size] at first last
    have low' := mul_le_mul_of_nonneg_right low (Int.natCast_nonneg t.size)
    have high' := mul_le_mul_of_nonneg_right (Int.add_le_add_right high 1)
      (Int.natCast_nonneg t.size)
    have next : (offset + 1) * (t.size : Int) = offset * t.size + t.size := by ring
    have nonneg : 0 ≤ ((Store.base st).toNat : Int) + offset * t.size := by omega
    obtain ⟨address, exact⟩ := Int.eq_ofNat_of_zero_le nonneg
    refine ⟨address, ?_, exact, by omega, by omega, by omega⟩
    rw [← exact, base, Nat.cast_add, Int.mul_comm]

end Storage.Readable

namespace Store

variable {s : Store} {t : Scalar} {h : Handle} {st : Storage}

/-- **Gathering is in row-major order.** If a tensor is found readable, whatever the operation that
asks, its elements are gathered, as many as its shape has. The element with number `k` is the pattern
at the address of the `k`-th multi-index, which is the data pointer, the byte offset and the offset
of the multi-index in elements, all added up without wrapping round. In the walk that finds the
offsets no product, no sum and no index leaves the signed words. -/
theorem gathers_in_row_major_order {operation : String}
    (readable : s.readable t operation h = .ok st) :
    let d := st.descriptor
    ∃ values : List t.Value, s.gather t h = .ok values ∧
      Layout.countOf d.shape = .ok values.length ∧
      (∀ (k : Nat) (below : k < values.length), ∃ (index : List Int) (address : Nat),
        (Layout.indices d.shape)[k]? = some index ∧ index = Layout.digits d.shape k ∧
          (address : Int) = st.data.address.toNat + d.byteOffset.toNat +
            t.size * Layout.offset d.strides index ∧
          address + t.size < wordCount ∧
          values[k] = s.host.memory.load t.size address) ∧
      d.wordOffsets.map (List.map Int64.toInt) =
        some ((Layout.indices d.shape).map (Layout.offset d.strides)) := by
  intro d
  obtain ⟨⟨id, rfl, live⟩, ok⟩ := readable_eq_ok_iff.1 readable
  have counted := ok.countOf
  have length : (s.host.memory.loadAt t.size (base st).toNat st.readOffsets).length = d.count := by
    rw [Memory.loadAt, List.length_map, ok.length_readOffsets]
  refine ⟨_, gather_of_readable live ok, length ▸ counted, fun k below => ?_, ?_⟩
  · rw [length] at below
    have numbered : (Layout.indices d.shape)[k]? = some (Layout.digits d.shape k) := by
      rw [Layout.indices_eq, Layout.size_eq_of_countOf counted, List.getElem?_map,
        List.getElem?_range below]
      rfl
    have mem : Layout.offset d.strides (Layout.digits d.shape k) ∈ st.readOffsets := by
      rw [ok.readOffsets_eq]
      exact List.mem_map.2 ⟨k, List.mem_range.2 below, rfl⟩
    obtain ⟨address, exact, found, -, -, bound⟩ := ok.exists_address mem
    refine ⟨_, address, numbered, rfl, exact, bound, ?_⟩
    simp only [Memory.loadAt, ok.readOffsets_eq, List.getElem_map, List.getElem_range]
    rw [found, Int.toNat_natCast]
  · rw [ok.map_wordOffsets, Storage.readOffsets_eq counted]

/-- A tensor of three rows and two columns, the last row first in memory: in the second row the
second element is the fifth of the buffer. -/
theorem gathers_in_row_major_order_reversed :
    let block : Block := ⟨4096, 12⟩
    let memory := Memory.zero.write 4096 [1, 0, 2, 0, 3, 0, 4, 0, 5, 0, 6, 0]
    let d : Descriptor := ⟨⟨[3, 2], [-1, 3]⟩, 4, .uint16, .cpu⟩
    let s := ((({} : Store).withMemory memory).add d (.toStart block) (.owned block)).2
    ∃ st values, s.readable .uint16 "to_vec" ⟨some 0⟩ = .ok st ∧
      s.gather .uint16 ⟨some 0⟩ = .ok values ∧ values.length = 6 ∧
      values[3]? = some (5 : Scalar.uint16.Value) := by
  intro block memory d s
  have readable : s.readable .uint16 "to_vec" ⟨some 0⟩ =
      .ok ⟨.toStart block, d, .ofBlock block, .owned block, 1⟩ := by decide +kernel
  obtain ⟨values, gathered, counted, element, -⟩ := gathers_in_row_major_order readable
  have length : values.length = 6 :=
    Except.ok.inj (counted.symm.trans (by decide +kernel : Layout.countOf [3, 2] = .ok 6))
  obtain ⟨index, address, -, rfl, place, -, value⟩ := element 3 (by omega)
  have place' : address = 4104 := Int.ofNat.inj (place.trans (by decide +kernel))
  refine ⟨_, values, readable, gathered, length, ?_⟩
  rw [List.getElem?_eq_getElem (by omega), value, place']
  decide +kernel

end Store

end SharedTensor
