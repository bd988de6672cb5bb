import SharedTensor.Store

/-!
# What can be told of tensors and records

Everything a holder of a handle or of a record can ask about it, gathered in one value, and the
texts in which both are shown.
-/

namespace SharedTensor

/-- What can be told of a tensor. -/
structure TensorReport where
  storage : StorageId
  references : Nat
  descriptor : Descriptor
  data : Pointer
  release : Release
  header : Except Fault Header

/-- What can be told of a record. -/
structure RecordReport where
  record : Record
  shape : Except Fault (List Int64)
  strides : Except Fault (Option (List Int64))
  elementType : Except Fault ElementType
  device : Except Fault Device
  descriptor : Except Fault Descriptor

namespace TensorReport

/-- How a handle of the tensor is shown. -/
def handleText (r : TensorReport) : String :=
  "TensorHandle \x7b shape: " ++ Text.listing r.descriptor.shape ++ ", strides: " ++
    Text.listing r.descriptor.strides ++ ", dtype: " ++
    Text.quoted r.descriptor.elementType.name ++ ", device: " ++
    Text.quoted r.descriptor.device.text ++ ", data: " ++ showPlace r.data.place ++ ", refs: " ++
    toString r.references ++ " \x7d"

/-- How the storage of the tensor is shown. -/
def storageText (r : TensorReport) : String :=
  "TensorStorage \x7b data: " ++ showPlace r.data.place ++ ", descriptor: " ++
    r.descriptor.debugText ++ ", release: " ++ r.release.kind.name ++ " \x7d"

end TensorReport

/-- How an empty handle is shown. -/
def emptyHandleText : String := "TensorHandle(<empty>)"

/-- What can be told of a record. -/
def Record.report (r : Record) : RecordReport where
  record := r
  shape := r.shapeOf
  strides := r.stridesOf
  elementType := r.type.elementType
  device := r.toHeader.device.device
  descriptor := r.descriptor

namespace Store

/-- What can be told of the tensor behind a handle. -/
def report (s : Store) (h : Handle) : Except Fault TensorReport :=
  match s.resolve h "storage" with
  | .error f => .error f
  | .ok (id, st) =>
    .ok {
      storage := id
      references := st.references
      descriptor := st.descriptor
      data := st.data
      release := st.release
      header := Header.ofDescriptor st.descriptor st.data }

end Store

end SharedTensor
