import SharedTensor.Layout

/-!
# Walking through a layout

The multi-indices of a shape in row-major order, one after the other, and the offsets that a layout
gives them.
-/

namespace SharedTensor.Layout

/-- The offset of a multi-index: the sum of the products of its indices with the strides. -/
def offset : List Int64 → List Int → Int
  | s :: ss, i :: is => i * s.toInt + offset ss is
  | _, _ => 0

/-- The next multi-index in row-major order. The last index moves first; an index that reaches the
end of its dimension goes back to zero and moves the one before it. The flag says whether all of
them went back to zero. -/
def successor : List Int64 → List Int → Bool × List Int
  | d :: ds, i :: is =>
    match successor ds is with
    | (false, is) => (false, i :: is)
    | (true, is) => if i + 1 < d.toInt then (false, (i + 1) :: is) else (true, 0 :: is)
  | _, _ => (true, [])

/-- The offsets of `n` multi-indices, starting from the given one. -/
def walk (l : Layout) : Nat → List Int → List Int
  | 0, _ => []
  | n + 1, index => offset l.strides index :: l.walk n (successor l.shape index).2

/-- The offsets of all elements in row-major order. -/
def offsets (l : Layout) : List Int :=
  l.walk l.count (l.shape.map fun _ => 0)

end SharedTensor.Layout
