import SharedTensor.ElementType

/-!
# Scalars that can be read and written

The element types whose values a program can hold. A value is the pattern of its bits, whatever the
bits denote, so that no value is altered by being stored and read again. In memory a pattern lies
with its low byte first.
-/

namespace SharedTensor

/-- The types whose elements can be read and written one by one. -/
inductive Scalar
  | float16
  | bfloat16
  | float32
  | float64
  | int8
  | int16
  | int32
  | int64
  | uint8
  | uint16
  | uint32
  | uint64
  deriving DecidableEq, Inhabited

namespace Scalar

/-- The element type of tensors that hold such scalars. -/
def elementType : Scalar → ElementType
  | float16 => .float16
  | bfloat16 => .bfloat16
  | float32 => .float32
  | float64 => .float64
  | int8 => .int8
  | int16 => .int16
  | int32 => .int32
  | int64 => .int64
  | uint8 => .uint8
  | uint16 => .uint16
  | uint32 => .uint32
  | uint64 => .uint64

/-- The bytes of a scalar, which are also its alignment. -/
def size : Scalar → Nat
  | int8 | uint8 => 1
  | float16 | bfloat16 | int16 | uint16 => 2
  | float32 | int32 | uint32 => 4
  | float64 | int64 | uint64 => 8

/-- Does the highest bit of a pattern stand for a negative number? -/
def isSigned : Scalar → Bool
  | int8 | int16 | int32 | int64 => true
  | _ => false

/-- The pattern of a scalar's bits. -/
abbrev Value (t : Scalar) : Type := BitVec (8 * t.size)

/-- The number that a pattern is written as: signed integers by their value, all others by the
pattern read as an unsigned number. -/
def toInt (t : Scalar) (v : t.Value) : Int :=
  if t.isSigned then v.toInt else v.toNat

theorem size_elementType (t : Scalar) : t.elementType.size = t.size := by
  cases t <;> rfl

theorem size_pos (t : Scalar) : 0 < t.size := by
  cases t <;> decide

end Scalar

/-- The bytes of a pattern, the low one first. -/
def bytesOf : (n : Nat) → BitVec (8 * n) → List UInt8
  | 0, _ => []
  | n + 1, v => UInt8.ofBitVec (v.extractLsb' 0 8) :: bytesOf n (v.extractLsb' 8 (8 * n))

/-- The pattern with the given bytes, the low one first. Bytes that are missing are zero. -/
def ofBytes : (n : Nat) → List UInt8 → BitVec (8 * n)
  | 0, _ => 0#0
  | n + 1, bs => (ofBytes n bs.tail ++ (bs.headD 0).toBitVec : BitVec (8 * n + 8))

theorem length_bytesOf (n : Nat) (v : BitVec (8 * n)) : (bytesOf n v).length = n := by
  induction n with
  | zero => rfl
  | succ n ih => simp [bytesOf, ih]

/-- A pattern is made of its bytes. -/
theorem ofBytes_bytesOf (n : Nat) (v : BitVec (8 * n)) : ofBytes n (bytesOf n v) = v := by
  induction n with
  | zero => simp [BitVec.eq_nil v, ofBytes]
  | succ n ih =>
    simp only [bytesOf, ofBytes, List.tail_cons, List.headD_cons, ih]
    rw [BitVec.extractLsb'_append_extractLsb'_eq_extractLsb' (w := 8 * n + 8) (by omega)]
    simp

end SharedTensor
