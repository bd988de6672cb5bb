import SharedTensor.Text.Decimal

/-!
# Element types

What one element of a tensor is: a kind of number, a width in bits, and a count of lanes. Kinds
carry the code numbers of the interchange format, so that a type crosses a library boundary as
three small numbers.
-/

namespace SharedTensor

/-- What sort of value the bits of an element denote. -/
inductive ElementKind
  | int
  | uint
  | float
  | handle
  | bfloat
  | complex
  | bool
  deriving DecidableEq, Inhabited

namespace ElementKind

/-- The kinds in the order of their codes. -/
def all : List ElementKind :=
  [.int, .uint, .float, .handle, .bfloat, .complex, .bool]

/-- The code of a kind in an interchange record. -/
def code : ElementKind → UInt8
  | int => 0
  | uint => 1
  | float => 2
  | handle => 3
  | bfloat => 4
  | complex => 5
  | bool => 6

/-- The kind with the given code. -/
def ofCode? (code : UInt8) : Option ElementKind :=
  all.find? fun k => k.code = code

/-- The word that opens the name of a type of this kind. -/
def word : ElementKind → String
  | int => "int"
  | uint => "uint"
  | float => "float"
  | handle => "handle"
  | bfloat => "bfloat"
  | complex => "complex"
  | bool => "bool"

/-- The tag of a kind in a serialised descriptor. -/
def tag : ElementKind → String
  | int => "Int"
  | uint => "UInt"
  | float => "Float"
  | handle => "OpaqueHandle"
  | bfloat => "BFloat"
  | complex => "Complex"
  | bool => "Bool"

/-- The kind with the given tag. -/
def ofTag? (tag : String) : Option ElementKind :=
  all.find? fun k => k.tag = tag

theorem mem_all (k : ElementKind) : k ∈ all := by
  cases k <;> decide

theorem ofCode?_code (k : ElementKind) : ofCode? k.code = some k := by
  cases k <;> decide

theorem ofTag?_tag (k : ElementKind) : ofTag? k.tag = some k := by
  cases k <;> decide

end ElementKind

/-- The type of a tensor's elements. -/
structure ElementType where
  kind : ElementKind
  /-- Width of one lane. -/
  bits : UInt8
  /-- How many lanes make up one element. -/
  lanes : UInt16
  deriving DecidableEq, Inhabited

namespace ElementType

/-- A type of one lane. -/
def scalar (kind : ElementKind) (bits : UInt8) : ElementType :=
  ⟨kind, bits, 1⟩

def float16 : ElementType := scalar .float 16
def float32 : ElementType := scalar .float 32
def float64 : ElementType := scalar .float 64
def bfloat16 : ElementType := scalar .bfloat 16
def int8 : ElementType := scalar .int 8
def int16 : ElementType := scalar .int 16
def int32 : ElementType := scalar .int 32
def int64 : ElementType := scalar .int 64
def uint8 : ElementType := scalar .uint 8
def uint16 : ElementType := scalar .uint 16
def uint32 : ElementType := scalar .uint 32
def uint64 : ElementType := scalar .uint 64
def bool8 : ElementType := scalar .bool 8
def complex64 : ElementType := scalar .complex 64
def complex128 : ElementType := scalar .complex 128

/-- The types that have a name of their own in this library. -/
def standard : List ElementType :=
  [float16, float32, float64, bfloat16, int8, int16, int32, int64, uint8, uint16, uint32, uint64,
    bool8, complex64, complex128]

/-- The bytes of one element; a part of a byte counts as a whole one. -/
def size (t : ElementType) : Nat :=
  (t.bits.toNat * t.lanes.toNat + 7) / 8

def isFloat (t : ElementType) : Bool :=
  t.kind = .float || t.kind = .bfloat

def isInt (t : ElementType) : Bool :=
  t.kind = .int || t.kind = .uint

def isComplex (t : ElementType) : Bool :=
  t.kind = .complex

/-- The characters of a type's name: the word of its kind, the width (which `bool` leaves out when
it is eight), and the count of lanes after an `x` unless there is at most one. -/
def nameChars (t : ElementType) : List Char :=
  t.kind.word.toList ++
    (if t.kind = .bool ∧ t.bits = 8 then [] else Decimal.ofNat t.bits.toNat) ++
    (if 1 < t.lanes then 'x' :: Decimal.ofNat t.lanes.toNat else [])

/-- The name of a type, such as `float32` or `uint8x4`. -/
def name (t : ElementType) : String :=
  String.ofList t.nameChars

end ElementType

end SharedTensor
