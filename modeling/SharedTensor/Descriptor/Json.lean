import SharedTensor.Descriptor
import SharedTensor.Json.Members

/-!
# Descriptors as JSON

The serialised form of a descriptor. Reading checks the form and the range of every number, and
nothing else: a descriptor that has been read is not yet validated.
-/

namespace SharedTensor

def ElementType.toJson (t : ElementType) : Json :=
  .record [("code", .text (some t.kind.tag)), ("bits", .integer t.bits.toNat),
    ("lanes", .integer t.lanes.toNat)]

def ElementType.ofJson? (j : Json) : Option ElementType := do
  match ← j.fields? ["code", "bits", "lanes"] with
  | [some code, some bits, some lanes] =>
    return ⟨← code.tag?.bind ElementKind.ofTag?, ← bits.byte?, ← lanes.halfword?⟩
  | _ => none

def Device.toJson (d : Device) : Json :=
  .record [("kind", .text (some d.kind.tag)), ("index", .integer d.index.toInt)]

def Device.ofJson? (j : Json) : Option Device := do
  match ← j.fields? ["kind", "index"] with
  | [some kind, some index] => return ⟨← kind.tag?.bind DeviceKind.ofTag?, ← index.signedHalf?⟩
  | _ => none

namespace Descriptor

def listJson (xs : List Int64) : Json :=
  .array (xs.map fun x => .integer x.toInt)

def toJson (d : Descriptor) : Json :=
  .record [("shape", listJson d.shape), ("strides", listJson d.strides),
    ("byte_offset", .integer d.byteOffset.toNat), ("dtype", d.elementType.toJson),
    ("device", d.device.toJson)]

def ofJson? (j : Json) : Option Descriptor := do
  match ← j.fields? ["shape", "strides", "byte_offset", "dtype", "device"] with
  | [some shape, some strides, some byteOffset, some elementType, some device] =>
    return {
      shape := ← shape.signedWords?
      strides := ← strides.signedWords?
      byteOffset := ← byteOffset.word?
      elementType := ← ElementType.ofJson? elementType
      device := ← Device.ofJson? device }
  | _ => none

/-- The descriptor that a text denotes. -/
def ofText? (text : String) : Option Descriptor :=
  (Json.parse? text).bind ofJson?

/-- The text of a descriptor. -/
def text (d : Descriptor) : String :=
  d.toJson.compact

end Descriptor

end SharedTensor
