import SharedTensor.Proofs.Create
import SharedTensor.Proofs.Layout.Span
import SharedTensor.Proofs.Read

/-!
# The size of a buffer

The size of a buffer is found in machine words, and refused where a number on the way is no word. It
is exact: without elements it is the byte offset, and otherwise the buffer ends with the element of
the greatest offset (`Descriptor.bufferSize_cases`). No shorter buffer holds the bytes of all
elements (`Descriptor.isLeast_bufferSize`). Reading compares addresses instead, in unbounded
arithmetic; what fits by its size is found inside the buffer (`Descriptor.admit_ofBlock`). A layout
that reaches outside of every buffer is refused for its shape
(`Descriptor.exists_refusal_of_oversteps`).
-/

namespace SharedTensor

namespace Layout

variable {l : Layout}

/-- **How many elements a buffer must hold.** None for no elements; otherwise the layout starts with
the buffer, and its greatest offset is the last one that has room. -/
theorem required_cases {n : Nat} (h : l.required = .ok n) :
    l.count = 0 ∧ n = 0 ∨
      l.count ≠ 0 ∧ ∃ high : Nat, IsLeast l.offsetSet 0 ∧ IsGreatest l.offsetSet high ∧
        l.span = .ok (some ⟨0, high⟩) ∧ high < 2 ^ 63 ∧ n = high + 1 := by
  unfold required at h
  split at h
  · cases h
  · next spanned =>
    exact .inl ⟨count_eq_zero_iff.2 (span_eq_none spanned), (Except.ok.inj h).symm⟩
  · next ends spanned =>
    obtain ⟨low, high⟩ := ends
    obtain ⟨filled, least, greatest, -, word⟩ := ends_of_span spanned
    split at h
    · cases h
    · next start =>
      -- the first element has offset zero, so the least offset is not above it
      obtain ⟨-, -, lowest, -⟩ := span_eq_some spanned
      have nonpos := lowest_nonpos (l.shape.zip l.strides)
      obtain rfl : low = 0 := by
        simp only at lowest start
        omega
      obtain ⟨top, rfl⟩ := Int.eq_ofNat_of_zero_le (least.2 greatest.1)
      have below : (top : Int) < 2 ^ 63 := word
      refine .inr ⟨filled, top, least, greatest, spanned, by exact_mod_cast below, ?_⟩
      rw [← Except.ok.inj h]
      exact Int.toNat_natCast (top + 1)

end Layout

namespace Descriptor

variable {d : Descriptor} {size : Nat}

/-- **The size of a buffer is exact.** It ends with the last element, or with the bytes before the
first one if there are no elements. -/
theorem bufferSize_cases (h : d.bufferSize = .ok size) :
    d.count = 0 ∧ size = d.byteOffset.toNat ∨
      d.count ≠ 0 ∧ ∃ high : Nat, IsLeast d.offsetSet 0 ∧ IsGreatest d.offsetSet high ∧
        d.span = .ok (some ⟨0, high⟩) ∧ high < 2 ^ 63 ∧
        size = d.byteOffset.toNat + (high + 1) * d.elementType.size := by
  obtain ⟨-, n, required, rfl, -⟩ := bufferSize_eq_ok_iff.1 h
  rcases Layout.required_cases required with
    ⟨none, rfl⟩ | ⟨filled, high, least, greatest, spanned, word, rfl⟩
  · exact .inl ⟨none, by rw [Nat.zero_mul, Nat.zero_add]⟩
  · exact .inr ⟨filled, high, least, greatest, spanned, word, Nat.add_comm _ _⟩

/-! ## The bytes of the elements -/

/-- Where the bytes of all elements lie, counted from the data pointer. -/
def byteSet (d : Descriptor) : Set Int :=
  {place | ∃ offset ∈ d.offsetSet, ∃ i : Nat, i < d.elementType.size ∧
    place = d.byteOffset.toNat + offset * d.elementType.size + i}

/-- **No shorter buffer holds the bytes of all elements.** -/
theorem isLeast_bufferSize {high : Nat} (least : IsLeast d.offsetSet 0)
    (greatest : IsGreatest d.offsetSet high) (sized : d.elementType.size ≠ 0) :
    IsLeast {length : Nat | ∀ place ∈ d.byteSet, 0 ≤ place ∧ place < length}
      (d.byteOffset.toNat + (high + 1) * d.elementType.size) := by
  have bytes : (0 : Int) ≤ d.elementType.size := Int.natCast_nonneg _
  constructor
  · -- a byte of any element lies between the first and the last one
    rintro - ⟨offset, mem, i, below, rfl⟩
    have start := mul_nonneg (least.2 mem) bytes
    have stop := mul_le_mul_of_nonneg_right (Int.add_le_add_right (greatest.2 mem) 1) bytes
    have next : (offset + 1) * (d.elementType.size : Int) =
        offset * d.elementType.size + d.elementType.size := by ring
    push_cast
    omega
  · -- the last byte of the last element is inside
    intro length holds
    have last := (holds _ ⟨high, greatest.1, d.elementType.size - 1, by omega, rfl⟩).2
    have next : ((high : Int) + 1) * d.elementType.size =
        high * d.elementType.size + d.elementType.size := by ring
    zify
    omega

/-- **What fits by its size lies inside the buffer by its addresses.** -/
theorem admit_ofBlock {b : Block} (sized : d.bufferSize = .ok b.size)
    (bound : b.start + b.size ≤ addressLimit) :
    Extent.admit (.ofBlock b) d (.toStart b) = .ok () := by
  have limit : addressLimit < wordCount := by decide
  rcases bufferSize_cases sized with ⟨none, -⟩ | ⟨-, high, -, -, spanned, -, size⟩
  · exact Extent.admit_of_no_elements (bufferSize_eq_ok_iff.1 sized).1 none
  · have room : (b.size : Int) = d.byteOffset.toNat + (high + 1) * d.elementType.size := by
      exact_mod_cast size
    simp only [Extent.admit_eq_ok_iff_of_span spanned, addressOf, Extent.ofBlock,
      Pointer.toNat_toStart bound]
    omega

/-! ## Layouts without a buffer -/

/-- The layout reaches outside of every buffer, or a number on the way to the size of its buffer is
no machine word. -/
inductive Oversteps (d : Descriptor) : Prop
  /-- The shape has no number of elements. -/
  | count {f : Fault} (uncounted : Layout.countOf d.shape = .error f)
  /-- An element lies before the one of offset zero, by a distance that is a word. -/
  | before {low : Int} (least : IsLeast d.offsetSet low) (word : -2 ^ 63 < low)
    (negative : low < 0)
  /-- The least offset is no word. -/
  | low {low : Int} (least : IsLeast d.offsetSet low) (beyond : low < -2 ^ 63)
  /-- The greatest offset is no word. -/
  | high {high : Int} (greatest : IsGreatest d.offsetSet high) (beyond : 2 ^ 63 - 1 < high)
  /-- The elements take up more bytes than there are words. -/
  | bytes {high : Int} (greatest : IsGreatest d.offsetSet high)
    (beyond : 2 ^ 64 ≤ (high + 1) * d.elementType.size)
  /-- So do they with the bytes before them. -/
  | buffer {high : Int} (greatest : IsGreatest d.offsetSet high)
    (beyond : 2 ^ 64 ≤ d.byteOffset.toNat + (high + 1) * d.elementType.size)

theorem Oversteps.not_sized (oversteps : d.Oversteps) : d.bufferSize ≠ .ok size := by
  intro sized
  obtain ⟨valid, n, -, -, bound⟩ := bufferSize_eq_ok_iff.1 sized
  obtain ⟨-, k, counted⟩ := Layout.validate_eq_ok_iff.1 valid
  have words : wordCount = 2 ^ 64 := by decide
  -- whoever knows an offset knows both ends, and that they have room
  have ends : ∀ o ∈ d.offsetSet, ∃ high : Nat, IsLeast d.offsetSet 0 ∧
      IsGreatest d.offsetSet high ∧ high < 2 ^ 63 ∧
      d.byteOffset.toNat + ((high : Int) + 1) * d.elementType.size < 2 ^ 64 := by
    intro o mem
    rcases bufferSize_cases sized with ⟨none, -⟩ | ⟨-, high, least, greatest, -, word, rfl⟩
    · exact absurd mem (Layout.not_mem_offsetSet none o)
    · refine ⟨high, least, greatest, word, ?_⟩
      rw [words] at bound
      exact_mod_cast bound
  cases oversteps with
  | count uncounted =>
    rw [counted] at uncounted
    cases uncounted
  | before least _ negative =>
    obtain ⟨high, start, -⟩ := ends _ least.1
    rw [least.unique start] at negative
    exact absurd negative (Int.lt_irrefl 0)
  | low least beyond =>
    obtain ⟨high, start, -⟩ := ends _ least.1
    rw [least.unique start] at beyond
    omega
  | high greatest beyond =>
    obtain ⟨high, -, last, word, -⟩ := ends _ greatest.1
    rw [greatest.unique last] at beyond
    omega
  | bytes greatest beyond | buffer greatest beyond =>
    obtain ⟨high, -, last, -, room⟩ := ends _ greatest.1
    rw [greatest.unique last] at beyond
    omega

/-- **A layout that oversteps is refused for its shape.** -/
theorem exists_refusal_of_oversteps (agree : d.shape.length = d.strides.length)
    (oversteps : d.Oversteps) : ∃ f, d.bufferSize = .error f ∧ f.kind = .invalidShape := by
  cases sized : d.bufferSize with
  | ok size => exact absurd sized oversteps.not_sized
  | error f => exact ⟨f, rfl, (refuses_of_bufferSize sized).resolve_left fun h => h.1 agree⟩

end Descriptor

end SharedTensor
