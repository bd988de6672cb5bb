/-!
# Decimal numerals

Whole numbers in decimal notation, over lists of characters. Writing gives the digits without
leading zeros; reading also takes leading zeros and one plus sign, and knows no other character
than the ten ASCII digits and the sign. Reading gives back what was written (`natural?_ofNat`,
`integer?_ofInt`), and the words of a machine are read through their bounds.
-/

namespace SharedTensor.Decimal

/-- The digits of a number, the most significant one first. -/
def ofNat (n : Nat) : List Char :=
  Nat.toDigits 10 n

/-- The digits of a number, after a minus sign if it is negative. -/
def ofInt : Int → List Char
  | .ofNat n => ofNat n
  | .negSucc n => '-' :: ofNat (n + 1)

/-- The value of a run of at least one digit. -/
def digits? (cs : List Char) : Option Nat :=
  if !cs.isEmpty && cs.all Char.isDigit then some (Nat.ofDigitChars 10 cs 0) else none

/-- An unsigned numeral: digits, after at most one plus sign. -/
def natural? : List Char → Option Nat
  | '+' :: cs => digits? cs
  | cs => digits? cs

/-- A signed numeral: digits, after at most one sign. -/
def integer? : List Char → Option Int
  | '-' :: cs => (digits? cs).map fun n => -(n : Int)
  | cs => (natural? cs).map Int.ofNat

/-- An unsigned numeral whose value fits in a byte. -/
def byte? (cs : List Char) : Option UInt8 :=
  (natural? cs).bind fun n => if n < UInt8.size then some (UInt8.ofNat n) else none

/-- An unsigned numeral whose value fits in sixteen bits. -/
def halfword? (cs : List Char) : Option UInt16 :=
  (natural? cs).bind fun n => if n < UInt16.size then some (UInt16.ofNat n) else none

/-- A signed numeral whose value fits in thirty-two bits. -/
def signedWord? (cs : List Char) : Option Int32 :=
  (integer? cs).bind fun i =>
    if Int32.minValue.toInt ≤ i ∧ i ≤ Int32.maxValue.toInt then some (Int32.ofInt i) else none

theorem isDigit_of_mem_ofNat {n : Nat} {c : Char} (h : c ∈ ofNat n) : c.isDigit = true :=
  Nat.isDigit_of_mem_toDigits (by decide) (by decide) h

theorem ofNat_ne_nil (n : Nat) : ofNat n ≠ [] :=
  Nat.toDigits_ne_nil

theorem digits?_ofNat (n : Nat) : digits? (ofNat n) = some n := by
  have h : (!(ofNat n).isEmpty && (ofNat n).all Char.isDigit) = true := by
    simpa [ofNat_ne_nil] using fun _ => isDigit_of_mem_ofNat
  rw [digits?, if_pos h]
  exact congrArg some Nat.ofDigitChars_ten_toDigits

/-- A numeral starts with a digit, not with a sign. -/
theorem ofNat_ne_cons {n : Nat} {c : Char} {cs : List Char} (hc : c.isDigit = false) :
    ofNat n ≠ c :: cs := by
  intro h
  have := isDigit_of_mem_ofNat (n := n) (c := c) (by simp [h])
  simp [hc] at this

theorem natural?_ofNat (n : Nat) : natural? (ofNat n) = some n := by
  unfold natural?
  split
  · next h => exact absurd h (ofNat_ne_cons (by decide))
  · exact digits?_ofNat n

theorem integer?_ofInt (i : Int) : integer? (ofInt i) = some i := by
  cases i with
  | ofNat n =>
    simp only [ofInt, integer?]
    split
    · next h => exact absurd h (ofNat_ne_cons (by decide))
    · simp [natural?_ofNat]
  | negSucc n => simp [ofInt, integer?, digits?_ofNat, Int.negSucc_eq]

theorem byte?_ofNat (b : UInt8) : byte? (ofNat b.toNat) = some b := by
  simp [byte?, natural?_ofNat, b.toNat_lt]

theorem halfword?_ofNat (w : UInt16) : halfword? (ofNat w.toNat) = some w := by
  simp [halfword?, natural?_ofNat, w.toNat_lt]

theorem signedWord?_ofInt (w : Int32) : signedWord? (ofInt w.toInt) = some w := by
  have h : Int32.minValue.toInt ≤ w.toInt ∧ w.toInt ≤ Int32.maxValue.toInt :=
    ⟨w.minValue_le_toInt, w.toInt_le⟩
  rw [signedWord?, integer?_ofInt, Option.bind_some, if_pos h, Int32.ofInt_toInt]

end SharedTensor.Decimal
