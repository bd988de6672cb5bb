import SharedTensor.Descriptor

/-!
# The bytes that a tensor reaches

Which bytes the elements of a tensor take up (`Descriptor.reach`), and whether they lie inside a
given extent (`Extent.admit`). A tensor without elements reaches nothing and lies inside every
extent.
-/

namespace SharedTensor

/-- The bytes between the first and the last element of a tensor over the given data; nothing if it
has no elements. -/
def Descriptor.reach (d : Descriptor) (data : Pointer) : Except Fault (Option Extent) :=
  match d.span with
  | .error f => .error f
  | .ok none => .ok none
  | .ok (some s) =>
    let base : Int := data.address.toNat + d.byteOffset.toNat
    let start := base + s.low * d.elementType.size
    let stop := base + (s.high + 1) * d.elementType.size
    if start < 0 ∨ wordCount ≤ stop then .error (.outsideAddressSpace d.shape d.strides)
    else .ok (some ⟨start.toNat, stop.toNat⟩)

/-- The extent that the creator of a tensor vouches for: what the tensor reaches, if that can be
said. -/
def Extent.vouched (d : Descriptor) (data : Pointer) : Extent :=
  match d.reach data with
  | .ok (some e) => e
  | _ => .empty

/-- Refuses a tensor that reaches outside the extent. -/
def Extent.admit (e : Extent) (d : Descriptor) (data : Pointer) : Except Fault Unit :=
  match d.reach data with
  | .error f => .error f
  | .ok none => .ok ()
  | .ok (some reached) =>
    if e.covers reached then .ok ()
    else .error (.outsideBuffer d.shape d.strides reached e data.block)

end SharedTensor
