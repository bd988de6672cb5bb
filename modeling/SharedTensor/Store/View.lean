import SharedTensor.Store

/-!
# Views

A view shows the buffer of another tensor under a layout of its own and keeps that tensor's storage
alive. Whether the layout stays inside the buffer is only checked on demand; reading checks it in
any case.
-/

namespace SharedTensor

/-- What is asked of a view. -/
structure ViewRequest where
  /-- The shape; that of the source if not given. -/
  shape : Option (List Int64) := none
  /-- The strides; those of the row-major layout of the shape if not given. -/
  strides : Option (List Int64) := none
  /-- Where the view starts; where the source starts if not given. -/
  data : Option Pointer := none
  /-- Whether the layout must stay inside the buffer; as the configuration says if not given. -/
  checkExtent : Option Bool := none
  deriving DecidableEq, Inhabited

namespace ViewRequest

/-- Shape and strides, if both are asked for and differ in length. -/
def disagreement (r : ViewRequest) : Option (Nat × Nat) :=
  match r.shape, r.strides with
  | some shape, some strides =>
    if shape.length ≠ strides.length then some (shape.length, strides.length) else none
  | _, _ => none

/-- The layout of the view of a tensor. -/
def layout (r : ViewRequest) (source : Descriptor) : Layout :=
  let shape := r.shape.getD source.shape
  ⟨shape, r.strides.getD (Layout.rowMajorStrides shape)⟩

/-- The descriptor of the view of a tensor. A view that starts at a place of its own has no byte
offset. -/
def descriptor (r : ViewRequest) (source : Descriptor) : Descriptor :=
  { r.layout source with
    byteOffset := if r.data.isSome then 0 else source.byteOffset
    elementType := source.elementType
    device := source.device }

end ViewRequest

namespace Store

/-- A view of the tensor behind a handle. -/
def view (s : Store) (c : Config) (h : Handle) (r : ViewRequest) : Except Fault (Handle × Store) :=
  match s.resolve h "storage" with
  | .error f => .error f
  | .ok (id, source) =>
    match r.disagreement with
    | some (shape, strides) => .error (.arityMismatch shape strides)
    | none =>
      let d := r.descriptor source.descriptor
      let data := r.data.getD source.data
      match d.validate with
      | .error f => .error f
      | .ok () =>
        let admitted :=
          if r.checkExtent.getD c.safety.checkViewExtent then source.extent.admit d data
          else .ok ()
        match admitted with
        | .error f => .error f
        | .ok () => .ok ((s.retain id).add d data (.view id))

end Store

end SharedTensor
