import SharedTensor.Layout.Index
import SharedTensor.Scalar
import SharedTensor.Store

/-!
# Reading elements

The elements of a tensor in row-major order. Reading is refused unless every element lies inside the
buffer. A row-major tensor is read in one run (`elements`); any tensor is read by walking through
its multi-indices (`gather`).
-/

namespace SharedTensor

/-- The pattern of `n` bytes that lies at an address. -/
def Memory.load (m : Memory) (n : Nat) (address : Nat) : BitVec (8 * n) :=
  ofBytes n (m.read address n)

/-- The patterns at the given offsets, counted in patterns from `base`. -/
def Memory.loadAt (m : Memory) (n base : Nat) (offsets : List Int) : List (BitVec (8 * n)) :=
  offsets.map fun offset => m.load n ((base : Int) + offset * n).toNat

namespace Store

/-- The address of the element of offset zero. -/
def base (st : Storage) : UInt64 :=
  st.data.address + st.descriptor.byteOffset

/-- What must hold before elements are read: the memory is in reach of the host, the elements are of
the type asked for, there is data, every element lies inside the buffer, and the first one is
aligned. -/
def readable (s : Store) (t : Scalar) (operation : String) (h : Handle) : Except Fault Storage :=
  match s.resolve h "storage" with
  | .error f => .error f
  | .ok (_, st) =>
    let d := st.descriptor
    if !d.device.isHostAccessible then .error (.notHostAccessible operation d.device)
    else if d.elementType ≠ t.elementType then
      .error (.wrongElementType operation t.elementType d.elementType)
    else if 0 < d.count ∧ st.data.isNull then .error (.noData operation)
    else
      match st.extent.admit d st.data with
      | .error f => .error f
      | .ok () =>
        if 0 < d.count ∧ (base st).toNat % t.size ≠ 0 then
          .error (.misaligned (st.data.block.place (base st).toNat) t.elementType)
        else .ok st

/-- The elements of a row-major tensor. -/
def elements (s : Store) (t : Scalar) (h : Handle) : Except Fault (List t.Value) :=
  match s.readable t "as_slice" h with
  | .error f => .error f
  | .ok st =>
    if !st.descriptor.isCompact then .error (.notCompact st.descriptor.strides)
    else
      .ok (s.host.memory.loadAt t.size (base st).toNat
        ((List.range st.descriptor.count).map Int.ofNat))

/-- The elements of a tensor in row-major order, whatever its strides. -/
def gather (s : Store) (t : Scalar) (h : Handle) : Except Fault (List t.Value) :=
  match s.readable t "to_vec" h with
  | .error f => .error f
  | .ok st =>
    if st.descriptor.isCompact then s.elements t h
    else .ok (s.host.memory.loadAt t.size (base st).toNat st.descriptor.offsets)

end Store

end SharedTensor
