import SharedTensor.Layout

/-!
# Descriptors

What is known of a tensor apart from its data: the layout, where in the buffer it starts, the type
of its elements, and the device. A descriptor is plain data and keeps no buffer alive.
-/

namespace SharedTensor

/-- Layout, byte offset, element type and device of a tensor. -/
structure Descriptor extends Layout where
  /-- Bytes between the data pointer and the element of offset zero. -/
  byteOffset : UInt64
  elementType : ElementType
  device : Device
  deriving DecidableEq, Inhabited

namespace Descriptor

/-- A descriptor of the given layout, which is row-major if no strides are given. -/
def make (shape : List Int64) (strides : Option (List Int64)) (elementType : ElementType)
    (device : Device) : Except Fault Descriptor :=
  let layout : Layout := ⟨shape, strides.getD (Layout.rowMajorStrides shape)⟩
  match layout.validate with
  | .error f => .error f
  | .ok () => .ok { layout with byteOffset := 0, elementType, device }

/-- A row-major descriptor. -/
def contiguous (shape : List Int64) (elementType : ElementType) (device : Device) :
    Except Fault Descriptor :=
  make shape none elementType device

def withByteOffset (d : Descriptor) (byteOffset : UInt64) : Descriptor :=
  { d with byteOffset }

/-- The bytes that hold every element of the layout, the byte offset not counted. -/
def requiredBytes (d : Descriptor) : Except Fault Nat :=
  match d.required with
  | .error f => .error f
  | .ok n =>
    if n * d.elementType.size < wordCount then .ok (n * d.elementType.size)
    else .error (.byteExtentOverflow d.shape)

/-- The bytes of a buffer for the tensor, the byte offset included. -/
def bufferSize (d : Descriptor) : Except Fault Nat :=
  match d.validate with
  | .error f => .error f
  | .ok () =>
    match d.requiredBytes with
    | .error f => .error f
    | .ok bytes =>
      if bytes + d.byteOffset.toNat < wordCount then .ok (bytes + d.byteOffset.toNat)
      else .error .byteOffsetOverflow

/-- A descriptor as it is shown in full. -/
def debugText (d : Descriptor) : String :=
  "StridedDescriptor \x7b shape: " ++ Text.listing d.shape ++ ", strides: " ++
    Text.listing d.strides ++ ", byte_offset: " ++ toString d.byteOffset.toNat ++
    ", dtype: DType \x7b code: " ++ d.elementType.kind.tag ++ ", bits: " ++
    toString d.elementType.bits.toNat ++ ", lanes: " ++ toString d.elementType.lanes.toNat ++
    " \x7d, device: Device \x7b kind: " ++ d.device.kind.tag ++ ", index: " ++
    toString d.device.index.toInt ++ " \x7d \x7d"

end Descriptor

end SharedTensor
