import SharedTensor.Host
import SharedTensor.Slots

/-!
# Holding memory

What a client of an allocator and its pool can do: take bytes of the pool into use, allocate
buffers, and let go of either. What is held stands under a name; taking something new under a name
lets go of the old, after the new has been taken.
-/

namespace SharedTensor

/-- Something held. -/
inductive Holding
  /-- So many bytes of the pool. -/
  | guard (size : Nat)
  /-- A buffer. -/
  | buffer (block : Block)
  deriving DecidableEq, Inhabited

/-- The bytes of the pool that are in use through a holding. -/
def Holding.size : Holding → Nat
  | guard size => size
  | buffer b => b.size

/-- Host memory, and what is held of it under names. -/
structure Holdings where
  host : Host := {}
  held : Slots Holding := {}
  deriving Inhabited

/-- What can be told of a fresh buffer. -/
structure BufferReport where
  block : Block
  isZeroed : Bool
  isAligned : Bool
  deriving DecidableEq, Inhabited

namespace Holdings

/-- What a client can do. -/
inductive Step
  | reserve (name : String) (size : Nat)
  | allocate (allocator : HostAllocator) (name : String) (size : Nat)
  | free (name : String)

/-- What comes of a step. -/
inductive Outcome
  | reserved (size : Nat)
  | allocated (result : Except Fault BufferReport)
  | freed (found : Bool)

/-- Ends a holding. -/
def letGo (h : Host) : Option Holding → Host
  | none => h
  | some (.guard size) => { h with pool := h.pool.refund size }
  | some (.buffer b) => h.free b

/-- Puts something under a name, and then lets go of what was there. -/
def take (s : Holdings) (host : Host) (name : String) (new : Holding) : Holdings where
  host := letGo host (s.held.get? name)
  held := s.held.set name new

/-- What can be told of a block in the given memory. -/
def report (m : Memory) (b : Block) (alignment : Nat) : BufferReport where
  block := b
  isZeroed := (m.read b.start b.size).all (· = 0)
  isAligned := b.start % alignment = 0

/-- One step. -/
def step (s : Holdings) : Step → Outcome × Holdings
  | .reserve name size =>
    (.reserved size,
      s.take { s.host with pool := s.host.pool.charge size } name (.guard size))
  | .allocate allocator name size =>
    match allocator.allocate s.host size with
    | .error f => (.allocated (.error f), s)
    | .ok (b, host) =>
      (.allocated (.ok (report host.memory b allocator.alignment)), s.take host name (.buffer b))
  | .free name =>
    match s.held.get? name with
    | none => (.freed false, s)
    | some old => (.freed true, { host := letGo s.host (some old), held := s.held.erase name })

end Holdings

end SharedTensor
