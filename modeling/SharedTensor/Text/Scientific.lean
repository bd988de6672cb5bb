import SharedTensor.Text.Decimal

/-!
# Scientific numerals

Decimal numerals with a fraction or an exponent, and what becomes of them in binary floating point.
A numeral keeps all its digits. To make it a float (`Scientific.toFloat?`), as many of its leading
digits as fit in a word are taken as its significand, and the significand is multiplied or divided
by a power of ten; each of these steps rounds to nearest. Every finite float is exactly a numeral
(`Scientific.ofFloat`).
-/

namespace SharedTensor

/-- The number `whole.fraction · 10 ^ exponent`, or its opposite. -/
structure Scientific where
  negative : Bool
  /-- The number that stands before the point. -/
  whole : Nat
  /-- The digits after the point. -/
  fraction : List (Fin 10)
  exponent : Int
  deriving DecidableEq, Inhabited

namespace Scientific

/-- The characters of a numeral; a point stands only before digits. -/
def chars (x : Scientific) : List Char :=
  let sign := if x.negative then ['-'] else []
  let fraction := match x.fraction with
    | [] => []
    | ds => '.' :: ds.map fun d => Nat.digitChar d.val
  sign ++ Decimal.ofNat x.whole ++ fraction ++ 'e' :: Decimal.ofInt x.exponent

/-- The numeral of an integer. -/
def ofInt (i : Int) : Scientific :=
  ⟨i < 0, i.natAbs, [], 0⟩

/-! ## To floats -/

/-- The longest leading part of a number that fits in a word, and how many digits follow it. -/
def leading (n : Nat) : Nat × Nat :=
  if n < UInt64.size then (n, 0)
  else ((leading (n / 10)).1, (leading (n / 10)).2 + 1)
termination_by n
decreasing_by all_goals simp only [UInt64.size] at *; omega

/-- A number with as many digits after it as fit in a word, and how many these are. -/
def extended (n : Nat) : List (Fin 10) → Nat × Nat
  | [] => (n, 0)
  | d :: ds =>
    if n * 10 + d.val < UInt64.size then
      ((extended (n * 10 + d.val) ds).1, (extended (n * 10 + d.val) ds).2 + 1)
    else (n, 0)

/-- The leading digits of a numeral that fit in a word, and the power of ten that they are to be
multiplied with. -/
def significand (x : Scientific) : Nat × Int :=
  let (whole, dropped) := leading x.whole
  let (digits, taken) := extended whole x.fraction
  (digits, dropped - taken + x.exponent)

/-- The greatest power of ten that is a float. -/
def greatestPower : Nat := 308

/-- The float next to a power of ten. -/
def powerOfTen (n : Nat) : Float :=
  Float.ofScientific 1 false n

/-- A float that is not negative times a power of ten, unless that is too large for a float. -/
def multiplied? (f : Float) (n : Nat) : Option Float :=
  if n ≤ greatestPower then
    if (f * powerOfTen n).isInf then none else some (f * powerOfTen n)
  else if f == 0 then some f
  else none

/-- A float divided by a power of ten. One that is no float itself is divided by in several
steps. -/
def divided (f : Float) (n : Nat) : Float :=
  if n ≤ greatestPower then f / powerOfTen n
  else if f == 0 then f
  else divided (f / powerOfTen greatestPower) (n - greatestPower)
termination_by n
decreasing_by simp only [greatestPower] at *; omega

/-- The float that a numeral denotes, unless it is too large for a float. -/
def toFloat? (x : Scientific) : Option Float :=
  let (digits, exponent) := x.significand
  let magnitude := match exponent with
    | .ofNat n => multiplied? (Float.ofNat digits) n
    | .negSucc n => some (divided (Float.ofNat digits) (n + 1))
  magnitude.map fun f => if x.negative then -f else f

/-! ## From floats -/

/-- The decimal number `m · 2 ^ -k` as a whole number and how often it is to be divided by ten. -/
def halved (m : Nat) : Nat → Nat × Nat
  | 0 => (m, 0)
  | k + 1 => if m % 2 = 0 then halved (m / 2) k else (m * Nat.pow 5 (k + 1), k + 1)

/-- The value of a finite float. -/
def ofFloat (f : Float) : Scientific :=
  let bits := f.toBits.toNat
  let field := (bits >>> 52) % (1 <<< 11)
  let fraction := bits % (1 <<< 52)
  let mantissa := if field = 0 then fraction else (1 <<< 52) + fraction
  let scale := if field = 0 then 1 else field
  let (whole, places) :=
    if 1075 ≤ scale then (mantissa <<< (scale - 1075), 0) else halved mantissa (1075 - scale)
  ⟨1 <<< 63 ≤ bits, whole, [], -places⟩

theorem leading_fst_lt (n : Nat) : (leading n).1 < UInt64.size := by
  fun_induction leading n with
  | case1 n h => exact h
  | case2 n h ih => exact ih

theorem extended_fst_lt {n : Nat} (h : n < UInt64.size) (ds : List (Fin 10)) :
    (extended n ds).1 < UInt64.size := by
  fun_induction extended n ds with
  | case1 => exact h
  | case2 n d ds hd ih => exact ih hd
  | case3 => exact h

/-- The significand fits in a word. -/
theorem significand_fst_lt (x : Scientific) : x.significand.1 < UInt64.size :=
  extended_fst_lt (leading_fst_lt x.whole) x.fraction

end Scientific

end SharedTensor
