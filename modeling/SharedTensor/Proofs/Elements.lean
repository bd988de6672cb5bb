import SharedTensor.Proofs.Reach

/-!
# Reading the elements of a block

Elements that have been written one after the other are what is loaded (`Memory.holds_write`). A
tensor over a block of elements (`Storage.Shows`) lies inside the block if and only if the offsets
of all its multi-indices do (`Storage.Shows.admit_iff`); then it can be read, and what is read are
the elements at these offsets in row-major order (`Store.gather_iff`).
-/

namespace SharedTensor

/-! ## Elements in memory -/

/-- A part of what has been written is what is read there. -/
theorem Memory.read_write_part (m : Memory) (start : Nat) {bytes : List UInt8} {k count : Nat}
    (h : k + count ≤ bytes.length) :
    (m.write start bytes).read (start + k) count = (bytes.drop k).take count := by
  refine List.ext_getElem ?_ fun i h₁ h₂ => ?_
  · rw [length_read, List.length_take, List.length_drop]
    omega
  · rw [length_read] at h₁
    have inside : k + i < bytes.length := by omega
    have place : start + k + i - start = k + i := by omega
    rw [List.getElem_take, List.getElem_drop]
    simp only [read, List.getElem_map, List.getElem_range, byte_write]
    rw [if_pos (by omega), place, List.getD_eq_getElem?_getD, List.getElem?_eq_getElem inside,
      Option.getD_some]

/-- What lies outside of what is written stays as it is. -/
theorem Memory.byte_write_of_outside (m : Memory) {start address : Nat} {bytes : List UInt8}
    (outside : address < start ∨ start + bytes.length ≤ address) :
    (m.write start bytes).byte address = m.byte address := by
  rw [byte_write]
  rcases outside with before | behind
  · rw [if_neg (Nat.not_le.2 before)]
  · rw [if_pos (by omega), List.getD_eq_getElem?_getD, List.getElem?_eq_none (by omega),
      Option.getD_none]

section

variable {α β : Type} {f : α → List β} {n : Nat} (length : ∀ x, (f x).length = n)

include length

theorem length_flatMap_const (xs : List α) : (xs.flatMap f).length = xs.length * n := by
  induction xs with
  | nil => rw [List.flatMap_nil, List.length_nil, List.length_nil, Nat.zero_mul]
  | cons x xs ih =>
    rw [List.flatMap_cons, List.length_append, length, ih, List.length_cons, Nat.succ_mul,
      Nat.add_comm]

/-- Parts of one length, one after the other, can be told apart by counting. -/
theorem take_drop_flatMap {xs : List α} {i : Nat} (h : i < xs.length) :
    ((xs.flatMap f).drop (i * n)).take n = f xs[i] := by
  induction xs generalizing i with
  | nil => cases h
  | cons x xs ih =>
    rw [List.flatMap_cons]
    cases i with
    | zero => rw [Nat.zero_mul, List.drop_zero, List.take_left' (length x), List.getElem_cons_zero]
    | succ i =>
      rw [Nat.succ_mul, Nat.add_comm, ← List.drop_drop, List.drop_left' (length x),
        ih (Nat.lt_of_succ_lt_succ h), List.getElem_cons_succ]

end

/-- The elements lie one after the other from an address on. -/
def Memory.Holds (m : Memory) (t : Scalar) (start : Nat) (data : List t.Value) : Prop :=
  ∀ (i : Nat) (h : i < data.length), m.load t.size (start + i * t.size) = data[i]

/-- **What has been written element by element is loaded element by element.** -/
theorem Memory.holds_write (m : Memory) (t : Scalar) (start : Nat) (data : List t.Value) :
    (m.write start (data.flatMap (bytesOf t.size))).Holds t start data := by
  intro i h
  have room : i * t.size + t.size ≤ (data.flatMap (bytesOf t.size)).length := by
    rw [length_flatMap_const (length_bytesOf t.size), ← Nat.succ_mul]
    exact Nat.mul_le_mul_right t.size h
  rw [load, read_write_part m start room, take_drop_flatMap (length_bytesOf t.size) h,
    ofBytes_bytesOf]

/-! ## Tensors over a block -/

/-- The block has room for so many elements, aligned, and lies where memory can lie. -/
structure Block.Fits (b : Block) (t : Scalar) (n : Nat) : Prop where
  size : b.size = n * t.size
  bound : b.start + b.size ≤ addressLimit
  aligned : t.size ∣ b.start
  start : 0 < n → 0 < b.start

/-- Whatever is aligned to a cache line is aligned for every scalar. -/
theorem Scalar.size_dvd_line (t : Scalar) : t.size ∣ 64 := by
  cases t <;> decide

/-- A fresh block of the right size has room for the elements. -/
theorem Block.Fresh.fits {b : Block} {m : Memory} {t : Scalar} {n : Nat} (fresh : b.Fresh m)
    (size : b.size = n * t.size) : b.Fits t n where
  size := size
  bound := fresh.bound
  aligned := t.size_dvd_line.trans fresh.aligned
  start filled := fresh.start (size ▸ Nat.mul_pos filled t.size_pos)

/-- The storage shows a block from its start on, as elements of the given type. -/
structure Storage.Shows (st : Storage) (t : Scalar) (b : Block) : Prop where
  valid : st.descriptor.validate = .ok ()
  data : st.data = .toStart b
  extent : st.extent = .ofBlock b
  byteOffset : st.descriptor.byteOffset = 0
  elementType : st.descriptor.elementType = t.elementType
  device : st.descriptor.device = .cpu

namespace Storage.Shows

variable {st : Storage} {t : Scalar} {b : Block} {n : Nat}

theorem toNat_address (h : st.Shows t b) (fits : b.Fits t n) :
    st.data.address.toNat = b.start := by
  rw [h.data, Pointer.toNat_toStart fits.bound]

theorem toNat_base (h : st.Shows t b) (fits : b.Fits t n) : (Store.base st).toNat = b.start := by
  rw [Store.base, h.byteOffset, UInt64.add_zero, h.toNat_address fits]

theorem addressOf (h : st.Shows t b) (fits : b.Fits t n) (offset : Int) :
    st.descriptor.addressOf st.data offset = b.start + offset * t.size := by
  rw [Descriptor.addressOf, h.toNat_address fits, h.byteOffset, h.elementType, t.size_elementType,
    UInt64.toNat_zero, Nat.cast_zero, Int.add_zero]

/-- **A tensor lies inside the block if and only if all its elements do.** -/
theorem admit_iff (h : st.Shows t b) (fits : b.Fits t n) :
    st.extent.admit st.descriptor st.data = .ok () ↔
      ∀ index ∈ Layout.indices st.descriptor.shape,
        0 ≤ Layout.offset st.descriptor.strides index ∧
          Layout.offset st.descriptor.strides index < n := by
  have pos : (0 : Int) < t.size := Int.natCast_pos.2 t.size_pos
  have start : st.extent.start = b.start := by rw [h.extent, Extent.ofBlock]
  have stop : (st.extent.stop : Int) = b.start + n * t.size := by
    rw [h.extent, Extent.ofBlock, fits.size, Nat.cast_add, Nat.cast_mul]
  rw [Extent.admit_eq_ok_iff h.valid]
  constructor
  · intro inside index mem
    obtain ⟨first, last⟩ := not_or.1 fun outside =>
      inside (.extent ⟨index, Layout.mem_indices.1 mem, rfl⟩ outside)
    rw [h.addressOf fits] at first last
    refine ⟨nonneg_of_mul_nonneg_left ?_ pos, le_of_mul_le_mul_right ?_ pos⟩
    · omega
    · omega
  · intro inside strays
    have few : n ≤ n * t.size := Nat.le_mul_of_pos_right n t.size_pos
    have bound := fits.size ▸ fits.bound
    have limit : addressLimit = 2 ^ 56 := by decide
    -- the bytes of an element lie between the start and the stop of the block
    have between {o : Int} (mem : o ∈ st.descriptor.offsetSet) :
        (0 ≤ o ∧ o < n) ∧ 0 ≤ o * t.size ∧ (o + 1) * t.size ≤ n * (t.size : Int) := by
      obtain ⟨index, isIndex, rfl⟩ := mem
      obtain ⟨nonneg, below⟩ := inside index (Layout.mem_indices.2 isIndex)
      exact ⟨⟨nonneg, below⟩, mul_nonneg nonneg pos.le, mul_le_mul_of_nonneg_right below pos.le⟩
    cases strays with
    | offset mem beyond =>
      have := between mem
      omega
    | address mem beyond | extent mem beyond =>
      have := between mem
      rw [h.addressOf fits, h.addressOf fits] at beyond
      omega

/-- What lies inside the block can be read. -/
theorem readable (h : st.Shows t b) (fits : b.Fits t n)
    (admitted : st.extent.admit st.descriptor st.data = .ok ())
    (start : 0 < st.descriptor.count → 0 < b.start) : st.Readable t where
  host := by
    rw [h.device]
    decide
  elementType := h.elementType
  data filled null := by
    rw [h.data, Pointer.isNull_toStart_iff fits.bound] at null
    exact absurd null (start filled).ne'
  admitted := admitted
  aligned _ := by
    rw [h.toNat_base fits]
    exact fits.aligned

end Storage.Shows

/-- Elements are read at the offsets of all multi-indices in row-major order, be it by counting or
by walking. -/
theorem Storage.readOffsets_eq {st : Storage} {n : Nat}
    (h : Layout.countOf st.descriptor.shape = .ok n) :
    st.readOffsets =
      (Layout.indices st.descriptor.shape).map (Layout.offset st.descriptor.strides) := by
  rw [readOffsets]
  split
  · next compact =>
    have strides : st.descriptor.strides = Layout.rowMajorStrides st.descriptor.shape :=
      of_decide_eq_true compact
    have count : st.descriptor.count = n := Layout.count_eq h
    rw [count, Layout.rowMajor_offsets h, strides]
  · exact Layout.offsets_eq h

namespace Store

variable {s : Store} {id : StorageId} {st : Storage} {t : Scalar} {b : Block}

/-- **A tensor over a block of elements can be read if and only if all its offsets lie inside the
block, and what is read are the elements at these offsets in row-major order.** -/
theorem gather_iff {data : List t.Value} (live : s.storages.get? id = some st)
    (shows : st.Shows t b) (fits : b.Fits t data.length)
    (holds : s.host.memory.Holds t b.start data) :
    ((∃ values, s.gather t ⟨some id⟩ = .ok values) ↔
      ∀ index ∈ Layout.indices st.descriptor.shape,
        0 ≤ Layout.offset st.descriptor.strides index ∧
          Layout.offset st.descriptor.strides index < data.length) ∧
      ∀ values, s.gather t ⟨some id⟩ = .ok values →
        values.map some = (Layout.indices st.descriptor.shape).map fun index =>
          data[(Layout.offset st.descriptor.strides index).toNat]? := by
  obtain ⟨-, n, count⟩ := Layout.validate_eq_ok_iff.1 shows.valid
  have admitted {values : List t.Value} (ok : s.gather t ⟨some id⟩ = .ok values) :
      st.extent.admit st.descriptor st.data = .ok () ∧
        values = s.host.memory.loadAt t.size b.start st.readOffsets := by
    obtain ⟨id', st', heq, live', -, inside, read⟩ := gather_eq_ok ok
    obtain rfl : id = id' := by simpa using heq
    obtain rfl : st = st' := Option.some.inj (live.symm.trans live')
    rw [shows.toNat_base fits] at read
    exact ⟨inside, Except.ok.inj (ok.symm.trans (read s.host.memory))⟩
  refine ⟨⟨?_, fun inside => ?_⟩, fun values ok => ?_⟩
  · rintro ⟨values, ok⟩
    exact (shows.admit_iff fits).1 (admitted ok).1
  · refine ⟨_, gather_of_readable live (shows.readable fits ((shows.admit_iff fits).2 inside) ?_)⟩
    intro filled
    -- where there is an element to read, there is one in the block
    rw [Layout.count_eq count] at filled
    have zero : Layout.digits st.descriptor.shape 0 ∈ Layout.indices st.descriptor.shape := by
      rw [Layout.indices_eq, Layout.size_eq_of_countOf count]
      exact List.mem_map_of_mem (List.mem_range.2 filled)
    obtain ⟨nonneg, below⟩ := inside _ zero
    exact fits.start (by omega)
  · obtain ⟨inside, rfl⟩ := admitted ok
    rw [Memory.loadAt, Storage.readOffsets_eq count, List.map_map, List.map_map]
    refine List.map_congr_left fun index mem => ?_
    obtain ⟨nonneg, below⟩ := (shows.admit_iff fits).1 inside index mem
    obtain ⟨i, offset⟩ := Int.eq_ofNat_of_zero_le nonneg
    rw [offset] at below
    have place : ((b.start : Int) + (i : Int) * t.size).toNat = b.start + i * t.size := by
      rw [← Nat.cast_mul, ← Nat.cast_add, Int.toNat_natCast]
    simp only [Function.comp_apply, offset, place, Int.toNat_natCast]
    rw [holds i (by omega), List.getElem?_eq_getElem]

end Store

end SharedTensor
