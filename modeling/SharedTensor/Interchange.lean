import SharedTensor.Descriptor
import SharedTensor.Device.Parser
import SharedTensor.ElementType.Parser

/-!
# Interchange records

The form in which a tensor crosses a library boundary: plain numbers, a data pointer, and arrays of
dimensions and strides that may be missing. A record that is handed over also says who deletes it.
Everything in a record may have been written by someone else, so all that is read from it is checked
(`Record.descriptor`).
-/

namespace SharedTensor

/-- The number of a storage. -/
abbrev StorageId := Nat

/-- The number of an interchange record. -/
abbrev RecordId := Nat

/-- The name under which a record that nobody has taken yet is offered. -/
def capsuleName : String := "dltensor"

/-- The name of a record once a consumer has taken it. -/
def usedCapsuleName : String := "used_dltensor"

/-- A device in a record. -/
structure DeviceNumbers where
  type : Int32
  id : Int32
  deriving DecidableEq, Inhabited

/-- An element type in a record. -/
structure TypeNumbers where
  code : UInt8
  bits : UInt8
  lanes : UInt16
  deriving DecidableEq, Inhabited

/-- The numbers of a device. -/
def Device.numbers (d : Device) : DeviceNumbers := ⟨d.kind.code, d.index⟩

/-- The device with the given numbers. -/
def DeviceNumbers.device (n : DeviceNumbers) : Except Fault Device :=
  match Device.kindOfCode n.type with
  | .error f => .error f
  | .ok kind => .ok ⟨kind, n.id⟩

/-- The numbers of an element type. -/
def ElementType.numbers (t : ElementType) : TypeNumbers := ⟨t.kind.code, t.bits, t.lanes⟩

/-- The element type with the given numbers. -/
def TypeNumbers.elementType (n : TypeNumbers) : Except Fault ElementType :=
  if n.lanes = 0 then .error .noLanes
  else
    match ElementType.kindOfCode n.code with
    | .error f => .error f
    | .ok kind => .ok ⟨kind, n.bits, n.lanes⟩

/-- What a record says of a tensor. -/
structure Header where
  data : Pointer
  device : DeviceNumbers
  /-- How many dimensions and strides there are. -/
  rank : Int32
  type : TypeNumbers
  /-- The dimensions, of which the first `rank` count. -/
  shape : Option (List Int64)
  /-- The strides, of which the first `rank` count; a missing array means row-major strides. -/
  strides : Option (List Int64)
  byteOffset : UInt64
  deriving DecidableEq, Inhabited

namespace Header

/-- The header of a tensor with the given descriptor. -/
def ofDescriptor (d : Descriptor) (data : Pointer) : Except Fault Header :=
  if d.rank < 1 <<< 31 then
    .ok {
      data
      device := d.device.numbers
      rank := Int32.ofNat d.rank
      type := d.elementType.numbers
      shape := some d.shape
      strides := some d.strides
      byteOffset := d.byteOffset }
  else .error (.rankTooLarge d.rank)

/-- The number of dimensions. -/
def rankOf (h : Header) : Except Fault Nat :=
  if h.rank.toInt < 0 then .error (.negativeRank h.rank) else .ok h.rank.toInt.toNat

/-- The part of an array that counts. -/
def counted (h : Header) (xs : List Int64) : List Int64 :=
  xs.take h.rank.toInt.toNat

/-- The dimensions. They may only be missing if there are none. -/
def shapeOf (h : Header) : Except Fault (List Int64) :=
  match h.rankOf with
  | .error f => .error f
  | .ok 0 => .ok []
  | .ok rank =>
    match h.shape with
    | none => .error (.noShape rank)
    | some xs => .ok (h.counted xs)

/-- The strides, unless they are left out. -/
def stridesOf (h : Header) : Except Fault (Option (List Int64)) :=
  match h.rankOf with
  | .error f => .error f
  | .ok 0 => .ok none
  | .ok _ => .ok (h.strides.map h.counted)

/-- The descriptor of the tensor: the rank is checked first, then the shape, the element type, the
device, and last the layout. -/
def descriptor (h : Header) : Except Fault Descriptor := do
  let shape ← h.shapeOf
  let strides ← h.stridesOf
  let elementType ← h.type.elementType
  let device ← h.device.device
  let d ← Descriptor.make shape strides elementType device
  return d.withByteOffset h.byteOffset

end Header

/-- Where a record comes from, which is also who deletes it. -/
inductive Origin
  /-- The library exported it. -/
  | exported
  /-- A producer handed it over; the name tells producers apart. -/
  | produced (producer : String)
  deriving DecidableEq, Inhabited

/-- A record that is handed over together with the duty to delete it. -/
structure Record extends Header where
  origin : Origin
  /-- Can the record still be deleted? -/
  hasDeleter : Bool
  /-- The storage on which an exported record holds a reference. -/
  context : Option StorageId
  deriving DecidableEq, Inhabited

namespace Record

/-- The storage behind a record that this library exported. -/
def exporter? (r : Record) : Option StorageId :=
  if r.origin = .exported && r.hasDeleter then r.context else none

/-- How an address is shown where only its being null matters. -/
def mask (isNull : Bool) : String :=
  if isNull then "null" else "<ptr>"

/-- A record as it is shown in full. -/
def debugText (r : Record) : String :=
  "ManagedTensor \x7b ptr: <ptr>, dl_tensor: DLTensor \x7b data: " ++ mask r.data.isNull ++
    ", device: DLDevice \x7b device_type: " ++ toString r.device.type.toInt ++ ", device_id: " ++
    toString r.device.id.toInt ++ " \x7d, ndim: " ++ toString r.rank.toInt ++
    ", dtype: DLDataType \x7b code: " ++ toString r.type.code.toNat ++ ", bits: " ++
    toString r.type.bits.toNat ++ ", lanes: " ++ toString r.type.lanes.toNat ++
    " \x7d, shape: " ++ mask r.shape.isNone ++ ", strides: " ++ mask r.strides.isNone ++
    ", byte_offset: " ++ toString r.byteOffset.toNat ++ " \x7d \x7d"

end Record

end SharedTensor
