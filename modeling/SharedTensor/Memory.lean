/-!
# Bytes in memory

What every byte of memory holds. Writing changes the bytes that it covers and no others
(`byte_write`), and what has been written is what is read (`read_write`).
-/

namespace SharedTensor

/-- The content of memory, by address. -/
structure Memory where
  byte : Nat → UInt8

namespace Memory

/-- Memory in which every byte is zero. -/
def zero : Memory := ⟨fun _ => 0⟩

instance : Inhabited Memory := ⟨zero⟩

/-- Memory with the given bytes from `start` on. -/
def write (m : Memory) (start : Nat) (bytes : List UInt8) : Memory :=
  let cells := bytes.toArray
  ⟨fun a => if start ≤ a then cells.getD (a - start) (m.byte a) else m.byte a⟩

/-- Memory with `count` bytes of zero from `start` on. -/
def clear (m : Memory) (start count : Nat) : Memory :=
  ⟨fun a => if start ≤ a ∧ a < start + count then 0 else m.byte a⟩

/-- The `count` bytes from `start` on. -/
def read (m : Memory) (start count : Nat) : List UInt8 :=
  (List.range count).map fun i => m.byte (start + i)

theorem byte_write (m : Memory) (start : Nat) (bytes : List UInt8) (a : Nat) :
    (m.write start bytes).byte a =
      if start ≤ a then bytes.getD (a - start) (m.byte a) else m.byte a := by
  by_cases h : start ≤ a
  · simp only [write, if_pos h]
    by_cases hlt : a - start < bytes.length <;> simp [Array.getD, List.getD, hlt]
  · simp [write, h]

theorem length_read (m : Memory) (start count : Nat) : (m.read start count).length = count := by
  simp [read]

/-- What has been written is what is read. -/
theorem read_write (m : Memory) (start : Nat) (bytes : List UInt8) :
    (m.write start bytes).read start bytes.length = bytes := by
  refine List.ext_getElem (by simp [read]) fun i h₁ h₂ => ?_
  simp [read, byte_write, h₂]

end Memory

end SharedTensor
