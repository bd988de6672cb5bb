import Mathlib.Data.List.Induction
import SharedTensor.Text.Decimal

/-!
# The texts that are numerals

Which texts are read as numbers, and as which. A run of digits is built up from its first digit, each
further one standing for the next lower place (`Digits`), an unsigned numeral is such a run after at most
one plus sign (`Unsigned`), and a signed one may have a minus sign in its place (`Signed`). The readers
take just these: without a bound (`natural?_eq_some_iff`, `integer?_eq_some_iff`), and within the bounds
of a word (`byte?_eq_some_iff`, `halfword?_eq_some_iff`, `signedWord?_eq_some_iff`).
-/

namespace SharedTensor.Decimal

/-- The text is a run of digits of the number. Zeros may stand in front. -/
inductive Digits : List Char → Nat → Prop
  | single (d : Fin 10) : Digits [Nat.digitChar d.val] d.val
  | snoc {cs : List Char} {n : Nat} (d : Fin 10) :
      Digits cs n → Digits (cs ++ [Nat.digitChar d.val]) (10 * n + d.val)

/-- The text is a run of digits of the number, with or without a plus sign in front. -/
inductive Unsigned : List Char → Nat → Prop
  | plain {cs : List Char} {n : Nat} : Digits cs n → Unsigned cs n
  | plus {cs : List Char} {n : Nat} : Digits cs n → Unsigned ('+' :: cs) n

/-- The text is an unsigned numeral of the number, or a run of digits after a minus sign. -/
inductive Signed : List Char → Int → Prop
  | natural {cs : List Char} {n : Nat} : Unsigned cs n → Signed cs n
  | minus {cs : List Char} {n : Nat} : Digits cs n → Signed ('-' :: cs) (-n)

variable {cs : List Char} {n : Nat}

/-! ## Digits -/

theorem exists_digitChar {c : Char} (h : c.isDigit = true) :
    ∃ d : Fin 10, Nat.digitChar d.val = c := by
  simp only [Char.isDigit, Bool.and_eq_true, decide_eq_true_eq, ge_iff_le,
    UInt32.le_iff_toNat_le] at h
  have bounds : 48 ≤ c.toNat ∧ c.toNat ≤ 57 := h
  have small : c.toNat - 48 < 10 := by omega
  refine ⟨⟨c.toNat - 48, small⟩, Char.toNat_inj.1 ?_⟩
  rw [Nat.toNat_digitChar_of_lt_ten small]
  omega

namespace Digits

theorem ne_nil (h : Digits cs n) : cs ≠ [] := by
  cases h <;> simp

theorem isDigit (h : Digits cs n) : ∀ c ∈ cs, c.isDigit = true := by
  induction h with
  | single d => simp
  | snoc d _ ih => simpa [or_imp, forall_and] using ih

theorem value (h : Digits cs n) : Nat.ofDigitChars 10 cs 0 = n := by
  have place (d : Fin 10) (m : Nat) : Nat.ofDigitChars 10 [Nat.digitChar d.val] m = 10 * m + d.val := by
    rw [Nat.ofDigitChars_cons, Nat.ofDigitChars_nil, Nat.toNat_digitChar_of_lt_ten d.isLt]
    simp
  induction h with
  | single d => rw [place, Nat.mul_zero, Nat.zero_add]
  | snoc d _ ih => rw [Nat.ofDigitChars_append, ih, place]

/-- Every run of digits is one of its value. -/
theorem of_isDigit (more : cs ≠ []) (h : ∀ c ∈ cs, c.isDigit = true) :
    Digits cs (Nat.ofDigitChars 10 cs 0) := by
  induction cs using List.reverseRecOn with
  | nil => exact absurd rfl more
  | append_singleton ds c ih =>
    obtain ⟨d, rfl⟩ := exists_digitChar (h c (by simp))
    have built : ∃ m, Digits (ds ++ [Nat.digitChar d.val]) m := by
      by_cases empty : ds = []
      · rw [empty]
        exact ⟨_, single d⟩
      · exact ⟨_, snoc d (ih empty fun c hc => h c (List.mem_append_left _ hc))⟩
    obtain ⟨m, digits⟩ := built
    rwa [digits.value]

end Digits

theorem digits?_eq_some_iff : digits? cs = some n ↔ Digits cs n := by
  unfold digits?
  constructor
  · intro h
    split at h
    · next run =>
      obtain ⟨more, digits⟩ : cs ≠ [] ∧ ∀ c ∈ cs, c.isDigit = true := by simpa using run
      exact Option.some.inj h ▸ .of_isDigit more digits
    · cases h
  · intro h
    have run : (!cs.isEmpty && cs.all Char.isDigit) = true := by
      simpa [h.ne_nil] using h.isDigit
    rw [if_pos run, h.value]

/-! ## Unsigned numerals -/

theorem natural?_eq_some_iff : natural? cs = some n ↔ Unsigned cs n := by
  constructor
  · intro h
    unfold natural? at h
    split at h
    · exact .plus (digits?_eq_some_iff.1 h)
    · exact .plain (digits?_eq_some_iff.1 h)
  · rintro (h | h)
    · unfold natural?
      split
      · -- a run of digits does not begin with a sign
        exact absurd (h.isDigit '+' List.mem_cons_self) (by decide)
      · exact digits?_eq_some_iff.2 h
    · exact digits?_eq_some_iff.2 h

/-- A word is read from the numerals of its number. -/
theorem bind_natural?_eq_some_iff {α : Type} {size : Nat} {ofNat : Nat → α} (toNat : α → Nat)
    (bound : ∀ a, toNat a < size) (ofNat_toNat : ∀ a, ofNat (toNat a) = a)
    (toNat_ofNat : ∀ n, n < size → toNat (ofNat n) = n) {a : α} :
    ((natural? cs).bind fun n => if n < size then some (ofNat n) else none) = some a ↔
      Unsigned cs (toNat a) := by
  rw [Option.bind_eq_some_iff, ← natural?_eq_some_iff]
  constructor
  · rintro ⟨n, read, h⟩
    split at h
    · next small =>
      obtain rfl := Option.some.inj h
      rwa [toNat_ofNat n small]
    · cases h
  · exact fun read => ⟨_, read, by rw [if_pos (bound a), ofNat_toNat]⟩

theorem byte?_eq_some_iff {b : UInt8} : byte? cs = some b ↔ Unsigned cs b.toNat :=
  bind_natural?_eq_some_iff UInt8.toNat UInt8.toNat_lt (fun _ => UInt8.ofNat_toNat)
    fun _ => UInt8.toNat_ofNat_of_lt'

theorem halfword?_eq_some_iff {w : UInt16} : halfword? cs = some w ↔ Unsigned cs w.toNat :=
  bind_natural?_eq_some_iff UInt16.toNat UInt16.toNat_lt (fun _ => UInt16.ofNat_toNat)
    fun _ => UInt16.toNat_ofNat_of_lt'

theorem unsigned_ofNat (n : Nat) : Unsigned (ofNat n) n :=
  natural?_eq_some_iff.1 (natural?_ofNat n)

namespace Unsigned

/-- A numeral ends with a digit. -/
theorem exists_getLast? (h : Unsigned cs n) : ∃ c, cs.getLast? = some c ∧ c.isDigit = true := by
  have last {cs : List Char} (h : Digits cs n) : ∃ c, cs.getLast? = some c ∧ c.isDigit = true :=
    ⟨_, List.getLast?_eq_some_getLast h.ne_nil, h.isDigit _ (List.getLast_mem h.ne_nil)⟩
  cases h with
  | plain h => exact last h
  | plus h =>
    obtain ⟨c, hc, digit⟩ := last h
    exact ⟨c, by rw [List.getLast?_cons, hc]; rfl, digit⟩

/-- Besides its digits a numeral has at most a sign. -/
theorem not_mem (h : Unsigned cs n) {c : Char} (digit : c.isDigit = false) (sign : c ≠ '+') :
    c ∉ cs := by
  have none {cs : List Char} (h : Digits cs n) : c ∉ cs := fun hc => by
    rw [h.isDigit c hc] at digit
    cases digit
  cases h with
  | plain h => exact none h
  | plus h => simp [sign, none h]

/-- A numeral is one of a single number. -/
theorem unique {m : Nat} (h : Unsigned cs n) (h' : Unsigned cs m) : n = m :=
  Option.some.inj ((natural?_eq_some_iff.2 h).symm.trans (natural?_eq_some_iff.2 h'))

theorem ne_nil (h : Unsigned cs n) : cs ≠ [] := by
  rintro rfl
  obtain ⟨c, hc, -⟩ := h.exists_getLast?
  cases hc

end Unsigned

/-! ## Signed numerals -/

theorem integer?_eq_some_iff {i : Int} : integer? cs = some i ↔ Signed cs i := by
  constructor
  · intro h
    unfold integer? at h
    split at h
    · next ds =>
      obtain ⟨n, read, rfl⟩ : ∃ n : Nat, digits? ds = some n ∧ -(n : Int) = i := by
        simpa [Option.bind_eq_some_iff, Option.map_eq_some_iff] using h
      exact .minus (digits?_eq_some_iff.1 read)
    · obtain ⟨n, read, rfl⟩ := Option.map_eq_some_iff.1 h
      exact .natural (natural?_eq_some_iff.1 read)
  · rintro (h | h)
    · unfold integer?
      split
      · -- an unsigned numeral has no minus sign
        exact absurd List.mem_cons_self (h.not_mem (by decide) (by decide))
      · rw [natural?_eq_some_iff.2 h]
        rfl
    · rw [integer?, digits?_eq_some_iff.2 h]
      rfl

theorem signedWord?_eq_some_iff {w : Int32} : signedWord? cs = some w ↔ Signed cs w.toInt := by
  rw [signedWord?, Option.bind_eq_some_iff, ← integer?_eq_some_iff]
  constructor
  · rintro ⟨i, read, h⟩
    split at h
    · next bounds =>
      obtain rfl := Option.some.inj h
      rwa [Int32.toInt_ofInt_of_le bounds.1 (Int.lt_of_le_sub_one bounds.2)]
    · cases h
  · exact fun read => ⟨_, read, by rw [if_pos ⟨w.minValue_le_toInt, w.toInt_le⟩, Int32.ofInt_toInt]⟩

theorem signed_ofInt (i : Int) : Signed (ofInt i) i :=
  integer?_eq_some_iff.1 (integer?_ofInt i)

end SharedTensor.Decimal
