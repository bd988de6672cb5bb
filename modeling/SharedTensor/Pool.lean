/-!
# Memory pools

A pool keeps account of the bytes in use: how many there are, and the most there ever were.
-/

namespace SharedTensor

/-- The account of the bytes in use. -/
structure Pool where
  allocated : Nat := 0
  peak : Nat := 0
  deriving DecidableEq, Inhabited

namespace Pool

/-- Takes `size` more bytes into use. -/
def charge (p : Pool) (size : Nat) : Pool where
  allocated := p.allocated + size
  peak := max p.peak (p.allocated + size)

/-- Gives `size` bytes back. -/
def refund (p : Pool) (size : Nat) : Pool :=
  { p with allocated := p.allocated - size }

end Pool

/-- How a guard over `size` bytes of a pool is shown. -/
def guardText (size : Nat) : String :=
  "MemoryGuard \x7b size: " ++ toString size ++ " \x7d"

end SharedTensor
