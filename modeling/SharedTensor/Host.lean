import SharedTensor.Config
import SharedTensor.Memory
import SharedTensor.Pool

/-!
# Host memory

Blocks of host memory are handed out one after the other, each from a multiple of its alignment on,
and never twice. A fresh block is zero throughout, and its bytes are charged to the pool of the host
until it is freed. Zero bytes need no block: they are an empty buffer with a null pointer.
-/

namespace SharedTensor

/-- The least multiple of `alignment` that is not below `n`. -/
def roundUp (n alignment : Nat) : Nat :=
  (n + alignment - 1) / alignment * alignment

/-- No block reaches past this address. -/
def addressLimit : Nat := 1 <<< 56

/-- Host memory: what it holds, from where on nothing has been handed out, and the account of the
bytes in use. -/
structure Host where
  memory : Memory := .zero
  frontier : Nat := 1 <<< 46
  pool : Pool := {}
  deriving Inhabited

namespace Host

/-- A block that has not been handed out before, unless there is no room for it. -/
def place (h : Host) (size alignment : Nat) : Option (Block × Host) :=
  let start := roundUp h.frontier alignment
  if start + size ≤ addressLimit then
    some (⟨start, size⟩, { h with frontier := start + max size 1 })
  else none

/-- Gives a block back to the pool. -/
def free (h : Host) (b : Block) : Host :=
  { h with pool := h.pool.refund b.size }

end Host

/-- A source of aligned blocks of host memory. -/
structure HostAllocator where
  alignment : Nat
  deriving DecidableEq, Inhabited

namespace HostAllocator

/-- The allocator for a device whose memory the host can reach. Blocks are aligned as asked for, and
at least as the device likes it. -/
def make (device : Device) (alignment : Nat) : Except Fault HostAllocator :=
  if !device.isHostAccessible then
    .error (.deviceRefused device.text "no allocator is registered for this device")
  else if !isPowerOfTwo alignment then .error (.alignmentNotPowerOfTwo alignment)
  else .ok ⟨max alignment device.alignment⟩

/-- A fresh block of `size` bytes, all zero. A size that would leave the signed words once rounded
up to the alignment is no size of a block; other sizes may be too large for the host. -/
def allocate (a : HostAllocator) (h : Host) (size : Nat) : Except Fault (Block × Host) :=
  if size = 0 then .ok (.none, h)
  else if 1 <<< 63 < size + a.alignment then .error .invalidBlock
  else
    match h.place size a.alignment with
    | none => .error (.outOfMemory size 0 "host tensor allocation")
    | some (b, h) =>
      .ok (b, { h with memory := h.memory.clear b.start size, pool := h.pool.charge size })

end HostAllocator

/-- How a buffer is shown. -/
def Block.bufferText (b : Block) : String :=
  "RawBuffer \x7b ptr: " ++ (if b.start = 0 then "null" else "<ptr>") ++ ", len: " ++
    toString b.size ++ " \x7d"

end SharedTensor
