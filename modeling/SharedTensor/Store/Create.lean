import SharedTensor.Scalar
import SharedTensor.Store

/-!
# New tensors

Tensors over fresh memory, which is sized for all that the descriptor reaches, and tensors over
memory of the caller's.
-/

namespace SharedTensor.Store

/-- A fresh block for a tensor with the given descriptor. Everything about the descriptor is checked
before the device is asked for memory. -/
def freshBlock (s : Store) (c : Config) (d : Descriptor) : Except Fault (Block × Host) :=
  match d.bufferSize with
  | .error f => .error f
  | .ok size =>
    match HostAllocator.make d.device c.storage.hostAlignment.toNat with
    | .error f => .error f
    | .ok allocator => allocator.allocate s.host size

/-- A tensor over fresh memory, which is all zero. -/
def allocate (s : Store) (c : Config) (d : Descriptor) : Except Fault (Handle × Store) :=
  match s.freshBlock c d with
  | .error f => .error f
  | .ok (block, host) => .ok ({ s with host }.add d (.toStart block) (.owned block))

/-- A row-major tensor over fresh memory. -/
def empty (s : Store) (c : Config) (shape : List Int64) (t : ElementType) (device : Device) :
    Except Fault (Handle × Store) :=
  match Descriptor.contiguous shape t device with
  | .error f => .error f
  | .ok d => s.allocate c d

/-- A row-major tensor on the host's processor with the given elements. -/
def ofList (s : Store) (c : Config) (t : Scalar) (data : List t.Value) (shape : List Int64) :
    Except Fault (Handle × Store) :=
  match Descriptor.contiguous shape t.elementType .cpu with
  | .error f => .error f
  | .ok d =>
    if d.count ≠ data.length then .error (.lengthMismatch data.length shape)
    else
      match s.freshBlock c d with
      | .error f => .error f
      | .ok (block, host) =>
        let memory := host.memory.write block.start (data.flatMap (bytesOf t.size))
        .ok ({ s with host := { host with memory } }.add d (.toStart block) (.owned block))

/-- A tensor over memory that belongs to someone else and is not freed. -/
def ofParts (s : Store) (c : Config) (d : Descriptor) (data : Pointer) :
    Except Fault (Handle × Store) :=
  match d.validate with
  | .error f => .error f
  | .ok () =>
    if data.isNull ∧ 0 < d.count ∧ c.safety.checkNullData then .error (.nullData d.shape)
    else .ok (s.add d data .unowned)

end SharedTensor.Store
