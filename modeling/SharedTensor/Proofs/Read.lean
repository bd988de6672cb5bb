import SharedTensor.Proofs.Layout
import SharedTensor.Proofs.Operations
import SharedTensor.Store.Read

/-!
# Which bytes are read

Elements are read at the offsets of the tensor (`Storage.readOffsets`), and a tensor is only read
if what it reaches lies inside its extent (`Storage.Readable`, `Store.readable_eq_ok_iff`). The
addresses are those of unbounded arithmetic, as no sum on the way wraps round, and each of them is in
the extent (`touched_mem_extent`). So what is read depends on no byte outside of it (`loadAt_congr`).
-/

namespace SharedTensor

/-! ## What a tensor reaches -/

/-- The ends of what is reached, in unbounded arithmetic; they are addresses. -/
theorem Descriptor.reach_eq_some {d : Descriptor} {data : Pointer} {e : Extent}
    (h : d.reach data = .ok (some e)) :
    let base : Int := data.address.toNat + d.byteOffset.toNat
    let dims := d.shape.zip d.strides
    d.shape.length = d.strides.length ∧ (∃ n, Layout.countOf d.shape = .ok n ∧ n ≠ 0) ∧
      (e.start : Int) = base + Layout.lowest dims * d.elementType.size ∧
      (e.stop : Int) = base + (Layout.highest dims + 1) * d.elementType.size ∧
      e.stop < wordCount := by
  intro base dims
  unfold reach at h
  split at h
  · cases h
  · cases h
  · next s hspan =>
    obtain ⟨hlength, hcount, hlow, hhigh⟩ := Layout.span_eq_some hspan
    simp only at h
    split at h
    · cases h
    · next hin =>
      obtain ⟨hstart, hstop⟩ := not_or.1 hin
      obtain rfl := Option.some.inj (Except.ok.inj h)
      have hbase : 0 ≤ base := by positivity
      have hsize : (0 : Int) ≤ (s.high + 1) * d.elementType.size := by
        have := Layout.highest_nonneg (d.shape.zip d.strides)
        refine mul_nonneg ?_ (Int.natCast_nonneg _)
        omega
      rw [hlow] at hstart
      rw [hhigh] at hstop hsize
      refine ⟨hlength, hcount, ?_, ?_, ?_⟩
      · simp only [hlow]
        exact Int.toNat_of_nonneg (Int.not_lt.1 hstart)
      · simp only [hhigh]
        exact Int.toNat_of_nonneg (Int.add_nonneg hbase hsize)
      · simp only [hhigh]
        omega

theorem Descriptor.reach_eq_none {d : Descriptor} {data : Pointer}
    (h : d.reach data = .ok none) : Layout.countOf d.shape = .ok 0 := by
  unfold reach at h
  split at h
  · cases h
  · next hspan => exact Layout.span_eq_none hspan
  · simp only at h
    split at h
    · cases h
    · cases Except.ok.inj h

theorem Extent.admit_eq_ok {e : Extent} {d : Descriptor} {data : Pointer}
    (h : e.admit d data = .ok ()) :
    d.reach data = .ok none ∨
      ∃ reached, d.reach data = .ok (some reached) ∧ e.start ≤ reached.start ∧
        reached.stop ≤ e.stop := by
  unfold Extent.admit at h
  split at h
  · cases h
  · next hreach => exact .inl hreach
  · next reached hreach =>
    split at h
    · next hcovers =>
      simp only [covers, Bool.and_eq_true, decide_eq_true_eq] at hcovers
      exact .inr ⟨reached, hreach, hcovers⟩
    · cases h

/-- The address of the element at an offset, in unbounded arithmetic. -/
def Descriptor.addressOf (d : Descriptor) (data : Pointer) (offset : Int) : Int :=
  data.address.toNat + d.byteOffset.toNat + offset * d.elementType.size

/-- Without elements nothing is reached. -/
theorem Descriptor.reach_of_no_elements {d : Descriptor} {data : Pointer}
    (valid : d.validate = .ok ()) (none : d.count = 0) : d.reach data = .ok Option.none := by
  obtain ⟨length, -⟩ := Layout.validate_eq_ok_iff.1 valid
  rw [reach, Layout.span_of_no_elements length (Layout.count_eq_zero_iff.1 none)]

/-- What is reached ends with the elements at the ends of the span, if these have addresses. -/
theorem Descriptor.reach_of_span {d : Descriptor} {data : Pointer} {ends : Span}
    (spanned : d.span = .ok (some ends)) :
    d.reach data =
      if d.addressOf data ends.low < 0 ∨ wordCount ≤ d.addressOf data (ends.high + 1) then
        .error (.outsideAddressSpace d.shape d.strides)
      else
        .ok (some ⟨(d.addressOf data ends.low).toNat, (d.addressOf data (ends.high + 1)).toNat⟩) := by
  rw [reach, spanned]
  rfl

namespace Extent

variable {e : Extent} {d : Descriptor} {data : Pointer}

theorem admit_of_no_elements (valid : d.validate = .ok ()) (none : d.count = 0) :
    e.admit d data = .ok () := by
  rw [ Extent.admit, Descriptor.reach_of_no_elements valid none]

/-- A tensor lies inside an extent if both ends of its span do, and are addresses. -/
theorem admit_eq_ok_iff_of_span {ends : Span} (spanned : d.span = .ok (some ends)) :
    e.admit d data = .ok () ↔
      (0 ≤ d.addressOf data ends.low ∧ d.addressOf data (ends.high + 1) < wordCount) ∧
        e.start ≤ d.addressOf data ends.low ∧ d.addressOf data (ends.high + 1) ≤ e.stop := by
  rw [ Extent.admit, Descriptor.reach_of_span spanned]
  by_cases beyond : d.addressOf data ends.low < 0 ∨
      wordCount ≤ d.addressOf data (ends.high + 1)
  · rw [if_pos beyond]
    refine ⟨nofun, fun h => ?_⟩
    omega
  · rw [if_neg beyond]
    simp only [covers, Bool.and_eq_true, decide_eq_true_eq, ite_eq_left_iff, reduceCtorEq,
      imp_false, not_not]
    omega

end Extent

/-! ## The addresses of what is read -/

/-- The addresses of the patterns of `n` bytes at the given offsets, in unbounded arithmetic. -/
def touched (n : Nat) (base : Int) (offsets : List Int) : List Int :=
  offsets.flatMap fun offset => (List.range n).map fun i : Nat => base + offset * n + i

theorem mem_touched {n : Nat} {base : Int} {offsets : List Int} {address : Int} :
    address ∈ touched n base offsets ↔
      ∃ offset ∈ offsets, ∃ i : Nat, i < n ∧ address = base + offset * n + i := by
  simp only [touched, List.mem_flatMap, List.mem_map, List.mem_range]
  constructor
  · rintro ⟨offset, hoffset, i, hi, rfl⟩
    exact ⟨offset, hoffset, i, hi, rfl⟩
  · rintro ⟨offset, hoffset, i, hi, rfl⟩
    exact ⟨offset, hoffset, i, hi, rfl⟩

/-- What is loaded depends on the bytes that are touched and on no others. -/
theorem loadAt_congr {m m' : Memory} {n base : Nat} {offsets : List Int}
    (nonneg : ∀ address ∈ touched n base offsets, 0 ≤ address)
    (same : ∀ address ∈ touched n base offsets, m.byte address.toNat = m'.byte address.toNat) :
    m.loadAt n base offsets = m'.loadAt n base offsets := by
  refine List.map_congr_left fun offset hoffset => ?_
  unfold Memory.load Memory.read
  congr 1
  refine List.map_congr_left fun i hi => ?_
  rw [List.mem_range] at hi
  have mem : (base : Int) + offset * n + i ∈ touched n base offsets :=
    mem_touched.2 ⟨offset, hoffset, i, hi, rfl⟩
  have first : (base : Int) + offset * n + (0 : Nat) ∈ touched n base offsets :=
    mem_touched.2 ⟨offset, hoffset, 0, by omega, rfl⟩
  have hfirst := nonneg _ first
  have heq : ((base : Int) + offset * n + i).toNat = ((base : Int) + offset * n).toNat + i := by
    omega
  rw [← heq]
  exact same _ mem

/-- The offsets at which the elements of a tensor are read. -/
def Storage.readOffsets (st : Storage) : List Int :=
  if st.descriptor.isCompact then (List.range st.descriptor.count).map Int.ofNat
  else st.descriptor.offsets

/-- Elements are read between the ends of the span. -/
theorem Storage.readOffsets_mem {st : Storage} {n : Nat}
    (hcount : Layout.countOf st.descriptor.shape = .ok n) :
    ∀ o ∈ st.readOffsets,
      Layout.lowest (st.descriptor.shape.zip st.descriptor.strides) ≤ o ∧
        o ≤ Layout.highest (st.descriptor.shape.zip st.descriptor.strides) := by
  obtain ⟨hvolume, -, -⟩ := Layout.countOf_eq_ok hcount
  have count : st.descriptor.count = n := Layout.count_eq hcount
  by_cases hzero : n = 0
  · intro o ho
    simp [readOffsets, Layout.offsets, Layout.walk, count, hzero] at ho
  have dims := Layout.one_le_of_countOf hcount hzero
  intro o ho
  rw [readOffsets] at ho
  split at ho
  · next compact =>
    -- the row-major offsets are the numbers below the count
    have hstrides : st.descriptor.strides = Layout.rowMajorStrides st.descriptor.shape :=
      of_decide_eq_true compact
    obtain ⟨hlow, hhigh⟩ := Layout.rowMajor_reach dims (Layout.volume_lt_of_countOf hcount)
    obtain ⟨i, hi, rfl⟩ := List.mem_map.1 ho
    rw [List.mem_range, count] at hi
    rw [hstrides, hlow, hhigh, Int.ofNat_eq_natCast]
    omega
  · exact Layout.walk_mem (Layout.isIndex_zero dims) o ho

/-- No address of a tensor that has elements in reach wraps round. -/
theorem Store.toNat_base {st : Storage} {e : Extent}
    (h : st.descriptor.reach st.data = .ok (some e)) :
    (Store.base st).toNat = st.data.address.toNat + st.descriptor.byteOffset.toNat := by
  obtain ⟨_, _, _, hstop, bound⟩ := Descriptor.reach_eq_some h
  have hhigh := Layout.highest_nonneg (st.descriptor.shape.zip st.descriptor.strides)
  have hsize : 0 ≤ (Layout.highest (st.descriptor.shape.zip st.descriptor.strides) + 1) *
      (st.descriptor.elementType.size : Int) :=
    mul_nonneg (by omega) (Int.natCast_nonneg _)
  rw [Store.base, UInt64.toNat_add, Nat.mod_eq_of_lt]
  change _ < wordCount
  omega

/-- **Every byte that is read lies inside the extent.** -/
theorem touched_mem_extent {st : Storage} {n : Nat} (hsize : st.descriptor.elementType.size = n)
    (h : st.extent.admit st.descriptor st.data = .ok ()) :
    ∀ address ∈ touched n (Store.base st).toNat st.readOffsets,
      st.extent.start ≤ address ∧ address < st.extent.stop := by
  intro address mem
  obtain ⟨offset, hoffset, i, hi, rfl⟩ := mem_touched.1 mem
  rcases Extent.admit_eq_ok h with hnone | ⟨reached, hreach, hstart, hstop⟩
  · have hcount := Descriptor.reach_eq_none hnone
    have count : st.descriptor.count = 0 := Layout.count_eq hcount
    simp [Storage.readOffsets, Layout.offsets, Layout.walk, count] at hoffset
  · obtain ⟨_, ⟨m, hcount, _⟩, hs, he, _⟩ := Descriptor.reach_eq_some hreach
    obtain ⟨hlow, hhigh⟩ := Storage.readOffsets_mem hcount offset hoffset
    rw [hsize] at hs he
    have low := mul_le_mul_of_nonneg_right hlow (Int.natCast_nonneg n)
    have high := mul_le_mul_of_nonneg_right (Int.add_le_add_right hhigh 1) (Int.natCast_nonneg n)
    have next : (offset + 1) * (n : Int) = offset * n + n := by ring
    rw [Store.toNat_base hreach]
    omega

/-! ## Reading -/

/-- What must hold of a tensor for its elements to be read. -/
structure Storage.Readable (st : Storage) (t : Scalar) : Prop where
  host : st.descriptor.device.isHostAccessible
  elementType : st.descriptor.elementType = t.elementType
  data : 0 < st.descriptor.count → ¬ st.data.isNull
  admitted : st.extent.admit st.descriptor st.data = .ok ()
  aligned : 0 < st.descriptor.count → t.size ∣ (Store.base st).toNat

namespace Store

variable {s : Store} {t : Scalar} {h : Handle} {id : StorageId} {st : Storage}

/-- **A tensor is found readable if it is**, whatever the operation that asks. -/
theorem readable_eq_ok_iff {operation : String} :
    s.readable t operation h = .ok st ↔
      (∃ id, h = ⟨some id⟩ ∧ s.storages.get? id = some st) ∧ st.Readable t := by
  constructor
  · intro ok
    unfold readable at ok
    split at ok
    · cases ok
    · next id st' hresolve =>
      obtain ⟨hh, live⟩ := resolve_eq_ok hresolve
      simp only at ok
      split at ok
      · cases ok
      · next host =>
        split at ok
        · cases ok
        · next type =>
          split at ok
          · cases ok
          · next there =>
            split at ok
            · cases ok
            · next admitted =>
              split at ok
              · cases ok
              · next aligned =>
                obtain rfl := Except.ok.inj ok
                refine ⟨⟨id, hh, live⟩, by simpa using host, Decidable.not_not.1 type,
                  fun filled null => there ⟨filled, null⟩, admitted, fun filled => ?_⟩
                by_contra off
                exact aligned ⟨filled, fun zero => off (Nat.dvd_of_mod_eq_zero zero)⟩
  · rintro ⟨⟨id, rfl, live⟩, ok⟩
    have there : ¬ (0 < st.descriptor.count ∧ st.data.isNull) := fun ⟨filled, null⟩ =>
      ok.data filled null
    have aligned : ¬ (0 < st.descriptor.count ∧ (base st).toNat % t.size ≠ 0) :=
      fun ⟨filled, off⟩ => off (Nat.mod_eq_zero_of_dvd (ok.aligned filled))
    rw [readable, resolve_of_live live]
    simp only [ok.host, ok.elementType, ok.admitted, if_neg there, if_neg aligned, Bool.not_true,
      Bool.false_eq_true, if_false, ne_eq, not_true_eq_false]

/-- The same store over other memory. -/
def withMemory (s : Store) (memory : Memory) : Store :=
  { s with host := { s.host with memory } }

/-- A row-major tensor that can be read is read in one run. -/
theorem elements_of_readable (live : s.storages.get? id = some st) (readable : st.Readable t)
    (compact : st.descriptor.isCompact) :
    s.elements t ⟨some id⟩ = .ok (s.host.memory.loadAt t.size (base st).toNat st.readOffsets) := by
  rw [elements, readable_eq_ok_iff.2 ⟨⟨id, rfl, live⟩, readable⟩, Storage.readOffsets,
    if_pos compact]
  simp only [compact, Bool.not_true, Bool.false_eq_true, if_false]

/-- A tensor that can be read is read at its offsets. -/
theorem gather_of_readable (live : s.storages.get? id = some st) (readable : st.Readable t) :
    s.gather t ⟨some id⟩ = .ok (s.host.memory.loadAt t.size (base st).toNat st.readOffsets) := by
  rw [gather, readable_eq_ok_iff.2 ⟨⟨id, rfl, live⟩, readable⟩]
  by_cases compact : st.descriptor.isCompact
  · simp only [compact, if_true]
    exact elements_of_readable live readable compact
  · rw [Storage.readOffsets, if_neg compact]
    simp only [if_neg compact]

/-- Reading in one run reads at the offsets of the tensor, whatever is in memory. -/
theorem elements_eq_ok {values : List t.Value} (ok : s.elements t h = .ok values) :
    ∃ id st, h = ⟨some id⟩ ∧ s.storages.get? id = some st ∧
      st.descriptor.elementType.size = t.size ∧
      st.extent.admit st.descriptor st.data = .ok () ∧
      ∀ memory, (s.withMemory memory).elements t h =
        .ok (memory.loadAt t.size (base st).toNat st.readOffsets) := by
  unfold elements at ok
  split at ok
  · cases ok
  · next st found =>
    obtain ⟨⟨id, rfl, live⟩, readable⟩ := readable_eq_ok_iff.1 found
    split at ok
    · cases ok
    · next compact =>
      have size : st.descriptor.elementType.size = t.size :=
        readable.elementType ▸ t.size_elementType
      exact ⟨id, st, rfl, live, size, readable.admitted, fun memory =>
        elements_of_readable (s := s.withMemory memory) live readable (by simpa using compact)⟩

/-- Walking through a tensor reads at the offsets of the tensor, whatever is in memory. -/
theorem gather_eq_ok {values : List t.Value} (ok : s.gather t h = .ok values) :
    ∃ id st, h = ⟨some id⟩ ∧ s.storages.get? id = some st ∧
      st.descriptor.elementType.size = t.size ∧
      st.extent.admit st.descriptor st.data = .ok () ∧
      ∀ memory, (s.withMemory memory).gather t h =
        .ok (memory.loadAt t.size (base st).toNat st.readOffsets) := by
  unfold gather at ok
  split at ok
  · cases ok
  · next st found =>
    obtain ⟨⟨id, rfl, live⟩, readable⟩ := readable_eq_ok_iff.1 found
    have size : st.descriptor.elementType.size = t.size :=
      readable.elementType ▸ t.size_elementType
    exact ⟨id, st, rfl, live, size, readable.admitted, fun memory =>
      gather_of_readable (s := s.withMemory memory) live readable⟩

end Store

end SharedTensor
