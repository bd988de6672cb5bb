import SharedTensor.Fault

/-!
# Strided layouts

A layout gives each multi-index of a shape an offset: the sum of the products of its indices with
the strides. The questions asked of a layout are how many elements it has (`countOf`), how far its
offsets reach (`span`), and how many elements a buffer must hold for it (`required`). All arithmetic
is done in unbounded integers, and what leaves the machine words of the answer is refused.
-/

namespace SharedTensor

/-- Dimensions and, for each of them, the distance in elements between neighbours along it. -/
structure Layout where
  shape : List Int64
  strides : List Int64
  deriving DecidableEq, Inhabited

/-- The least and the greatest offset of a layout that has elements. -/
structure Span where
  low : Int
  high : Int
  deriving DecidableEq, Inhabited

/-- Is the number a signed word of sixty-four bits? -/
def isSignedWord (i : Int) : Bool :=
  Int64.minValue.toInt ≤ i && i ≤ Int64.maxValue.toInt

namespace Layout

/-- The product of all dimensions, from the last to the first; a product that leaves the signed
words stays at the end over which it went. -/
def clampedProduct : List Int64 → Int64
  | [] => 1
  | d :: ds => Int64.ofIntClamp ((clampedProduct ds).toInt * d.toInt)

/-- The strides under which the elements of a shape follow each other in row-major order: for each
dimension the product of the dimensions after it. -/
def rowMajorStrides : List Int64 → List Int64
  | [] => []
  | _ :: ds => clampedProduct ds :: rowMajorStrides ds

/-- The row-major layout of a shape. -/
def rowMajor (shape : List Int64) : Layout := ⟨shape, rowMajorStrides shape⟩

/-- Are the strides exactly those of the row-major layout? -/
def isCompact (l : Layout) : Bool :=
  l.strides = rowMajorStrides l.shape

/-- The product of the given dimensions and `acc`, as long as no dimension is negative and no product
on the way leaves the machine words. The whole shape is only there to be named in a fault. -/
def countFrom (shape : List Int64) (acc : Nat) : List Int64 → Except Fault Nat
  | [] => .ok acc
  | d :: ds =>
    if d.toInt < 0 then .error (.negativeDimension shape)
    else if acc * d.toInt.toNat < wordCount then countFrom shape (acc * d.toInt.toNat) ds
    else .error (.countOverflow shape)

/-- The number of elements of a shape. -/
def countOf (shape : List Int64) : Except Fault Nat :=
  countFrom shape 1 shape

/-- The span `acc` widened by the reach of each dimension in turn, as long as every number on the
way is a signed word. -/
def spanFrom : Span → List (Int64 × Int64) → Option Span
  | acc, [] => some acc
  | acc, (dim, stride) :: rest =>
    let reach := (dim.toInt - 1) * stride.toInt
    let wider : Span :=
      if reach < 0 then ⟨acc.low + reach, acc.high⟩ else ⟨acc.low, acc.high + reach⟩
    if isSignedWord reach && isSignedWord wider.low && isSignedWord wider.high then
      spanFrom wider rest
    else none

/-- The least and the greatest offset; nothing if the layout has no elements. -/
def span (l : Layout) : Except Fault (Option Span) :=
  if l.shape.length ≠ l.strides.length then
    .error (.arityMismatch l.shape.length l.strides.length)
  else
    match countOf l.shape with
    | .error f => .error f
    | .ok 0 => .ok none
    | .ok _ =>
      match spanFrom ⟨0, 0⟩ (l.shape.zip l.strides) with
      | none => .error (.spanOverflow l.shape l.strides)
      | some s => .ok (some s)

/-- How many elements a buffer must hold for every offset to lie inside it. A layout that reaches
before the start has no such buffer. -/
def required (l : Layout) : Except Fault Nat :=
  match l.span with
  | .error f => .error f
  | .ok none => .ok 0
  | .ok (some s) =>
    if s.low < 0 then .error (.beforeStart l.strides s.low.natAbs)
    else .ok (s.high + 1).toNat

/-- Do shape and strides agree in length, and does the shape have a number of elements? -/
def validate (l : Layout) : Except Fault Unit :=
  if l.shape.length ≠ l.strides.length then
    .error (.arityMismatch l.shape.length l.strides.length)
  else
    match countOf l.shape with
    | .error f => .error f
    | .ok _ => .ok ()

/-- The number of elements; the greatest word where there is no such number. -/
def count (l : Layout) : Nat :=
  match countOf l.shape with
  | .error _ => wordCount - 1
  | .ok n => n

/-- The number of dimensions. -/
def rank (l : Layout) : Nat := l.shape.length

end Layout

end SharedTensor
