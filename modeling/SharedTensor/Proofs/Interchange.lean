import Mathlib.Algebra.Group.Nat.Defs
import SharedTensor.Proofs.Operations

/-!
# Descriptors in records

What a record says of a tensor is what the tensor's descriptor says
(`Header.descriptor_ofDescriptor`): every number is read back as what it was written for, and
strides that have been left out are those of the row-major layout.
-/

namespace SharedTensor

theorem Device.device_numbers (d : Device) : d.numbers.device = .ok d := by
  rw [DeviceNumbers.device, Device.numbers, Device.kindOfCode, DeviceKind.ofCode?_code]

theorem ElementType.elementType_numbers {t : ElementType} (lanes : t.lanes ≠ 0) :
    t.numbers.elementType = .ok t := by
  rw [TypeNumbers.elementType, ElementType.numbers, if_neg lanes, ElementType.kindOfCode,
    ElementKind.ofCode?_code]

/-- A valid descriptor is what its parts make. -/
theorem Descriptor.make_of_validate {d : Descriptor} (valid : d.validate = .ok ())
    {strides : Option (List Int64)}
    (hstrides : strides.getD (Layout.rowMajorStrides d.shape) = d.strides) :
    make d.shape strides d.elementType d.device = .ok (d.withByteOffset 0) := by
  unfold make
  simp only [hstrides]
  rw [show (⟨d.shape, d.strides⟩ : Layout) = d.toLayout from rfl, valid]
  rfl

namespace Header

variable {d : Descriptor} {data : Pointer}

/-- The header of a descriptor in which the strides may have been left out. -/
def ofParts (d : Descriptor) (data : Pointer) (strides : Option (List Int64)) : Header where
  data
  device := d.device.numbers
  rank := Int32.ofNat d.rank
  type := d.elementType.numbers
  shape := some d.shape
  strides
  byteOffset := d.byteOffset

theorem ofDescriptor_eq_ok (rank : d.rank < 2 ^ 31) :
    ofDescriptor d data = .ok (ofParts d data (some d.strides)) :=
  if_pos rank

theorem toInt_rank_ofParts (rank : d.rank < 2 ^ 31) (strides : Option (List Int64)) :
    (ofParts d data strides).rank.toInt = d.rank :=
  Int32.toInt_ofNat_of_lt rank

theorem rankOf_ofParts (rank : d.rank < 2 ^ 31) (strides : Option (List Int64)) :
    (ofParts d data strides).rankOf = .ok d.rank := by
  have nonneg : ¬ (d.rank : Int) < 0 := Int.not_lt.2 (Int.natCast_nonneg _)
  rw [rankOf, toInt_rank_ofParts rank, if_neg nonneg, Int.toNat_natCast]

theorem shapeOf_ofParts (rank : d.rank < 2 ^ 31) (strides : Option (List Int64)) :
    (ofParts d data strides).shapeOf = .ok d.shape := by
  rw [shapeOf, rankOf_ofParts rank]
  cases hr : d.rank with
  | zero =>
    rw [List.eq_nil_of_length_eq_zero hr]
    rfl
  | succ n =>
    change Except.ok ((ofParts d data strides).counted d.shape) = Except.ok d.shape
    rw [counted, toInt_rank_ofParts rank, Int.toNat_natCast, Layout.rank, List.take_length]

theorem stridesOf_ofParts (data : Pointer) (rank : d.rank < 2 ^ 31)
    (length : d.shape.length = d.strides.length) {strides : Option (List Int64)}
    (hstrides : strides = some d.strides ∨ strides = none ∧ d.isCompact) :
    ∃ strides', (ofParts d data strides).stridesOf = .ok strides' ∧
      strides'.getD (Layout.rowMajorStrides d.shape) = d.strides := by
  rw [stridesOf, rankOf_ofParts rank]
  cases hr : d.rank with
  | zero =>
    have hshape : d.shape = [] := List.eq_nil_of_length_eq_zero hr
    refine ⟨none, rfl, ?_⟩
    rw [hshape] at length ⊢
    exact (List.eq_nil_of_length_eq_zero length.symm).symm
  | succ n =>
    refine ⟨_, rfl, ?_⟩
    rcases hstrides with rfl | ⟨rfl, compact⟩
    · change (ofParts d data (some d.strides)).counted d.strides = d.strides
      rw [counted, toInt_rank_ofParts rank, Int.toNat_natCast, Layout.rank, length,
        List.take_length]
    · exact (of_decide_eq_true compact).symm

/-- **What is written of a descriptor is what is read.** -/
theorem descriptor_ofDescriptor (valid : d.validate = .ok ()) (lanes : d.elementType.lanes ≠ 0)
    (rank : d.rank < 2 ^ 31) {strides : Option (List Int64)}
    (hstrides : strides = some d.strides ∨ strides = none ∧ d.isCompact) :
    (ofParts d data strides).descriptor = .ok d := by
  obtain ⟨length, _⟩ := Layout.validate_eq_ok_iff.1 valid
  obtain ⟨strides', hread, hsame⟩ := stridesOf_ofParts data rank length hstrides
  have hmake := Descriptor.make_of_validate valid hsame
  rw [descriptor, shapeOf_ofParts rank, hread]
  change (do
    let elementType ← d.elementType.numbers.elementType
    let device ← d.device.numbers.device
    let made ← Descriptor.make d.shape strides' elementType device
    return made.withByteOffset d.byteOffset) = _
  rw [ElementType.elementType_numbers lanes, Device.device_numbers]
  change (do
    let made ← Descriptor.make d.shape strides' d.elementType d.device
    return made.withByteOffset d.byteOffset) = _
  rw [hmake]
  rfl

end Header

end SharedTensor
