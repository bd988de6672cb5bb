/-!
# Pointers and address ranges

Addresses are words of sixty-four bits. A pointer remembers the block of memory that it was derived
from; what is said about an address is said as its distance from the start of that block. An extent
is a range of bytes, told by its two ends.
-/

namespace SharedTensor

/-- How many addresses there are; also the least number that is no machine word. -/
def wordCount : Nat := UInt64.size

/-- A contiguous run of memory. -/
structure Block where
  start : Nat
  size : Nat
  deriving DecidableEq, Inhabited

/-- The block behind a null pointer, in which nothing lies. -/
def Block.none : Block := ⟨0, 0⟩

/-- Where an address lies as told from the start of a block; the null address has no place. -/
def Block.place (b : Block) (address : Nat) : Option Int :=
  if address = 0 then Option.none else some ((address : Int) - b.start)

/-- Do `count` bytes from `address` on lie inside the block? No bytes at all lie inside a block
without bytes, unless it is the one behind a null pointer. -/
def Block.holds (b : Block) (address : Int) (count : Nat) : Bool :=
  0 < b.start && (b.start : Int) ≤ address && address + count ≤ b.start + b.size

/-- An address together with the block that it was derived from. -/
structure Pointer where
  address : UInt64
  block : Block
  deriving DecidableEq, Inhabited

namespace Pointer

/-- The pointer to nowhere. -/
def null : Pointer := ⟨0, .none⟩

/-- The pointer to the first byte of a block. -/
def toStart (b : Block) : Pointer := ⟨UInt64.ofNat b.start, b⟩

def isNull (p : Pointer) : Bool :=
  p.address = 0

/-- The pointer `distance` bytes further on in the same block. Addresses wrap round. -/
def advance (p : Pointer) (distance : Int) : Pointer :=
  { p with address := UInt64.ofInt (p.address.toNat + distance) }

/-- Where a pointer stands in its block. -/
def place (p : Pointer) : Option Int :=
  p.block.place p.address.toNat

end Pointer

/-- How a place in a block is shown. -/
def showPlace : Option Int → String
  | none => "null"
  | some distance => toString distance

/-- The bytes from `start` up to but not including `stop`. -/
structure Extent where
  start : Nat
  stop : Nat
  deriving DecidableEq, Inhabited

namespace Extent

/-- The extent without bytes. -/
def empty : Extent := ⟨0, 0⟩

/-- The bytes of a block. -/
def ofBlock (b : Block) : Extent := ⟨b.start, b.start + b.size⟩

/-- Does every byte of `inner` lie inside `outer`? -/
def covers (outer inner : Extent) : Bool :=
  outer.start ≤ inner.start && inner.stop ≤ outer.stop

/-- Both ends of an extent as places in a block. -/
def showIn (b : Block) (e : Extent) : String :=
  showPlace (b.place e.start) ++ ".." ++ showPlace (b.place e.stop)

end Extent

end SharedTensor
