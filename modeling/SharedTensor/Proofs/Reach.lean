import SharedTensor.Proofs.Create
import SharedTensor.Proofs.Layout.Span
import SharedTensor.Proofs.Read

/-!
# What lies inside an extent

The check of an extent looks at two addresses only, those where the bytes of all elements begin and
end. It refuses just the tensors with an element whose offset is no signed word, which lies outside
of the address space, or which lies outside of the extent (`Descriptor.Strays`), since the offsets
have a least and a greatest one among them (`Extent.admit_eq_ok_iff`). A valid descriptor is refused
for its shape (`Extent.kind_of_admit`).
-/

namespace SharedTensor

variable {e : Extent} {d : Descriptor} {data : Pointer}

/-- Some element of the tensor strays from the extent: its offset is no signed word, or not all its
bytes have addresses, or not all of them lie in the extent. -/
inductive Descriptor.Strays (d : Descriptor) (data : Pointer) (e : Extent) : Prop
  | offset {o : Int} (mem : o ∈ d.offsetSet) (beyond : o < -2 ^ 63 ∨ 2 ^ 63 ≤ o)
  | address {o : Int} (mem : o ∈ d.offsetSet)
    (beyond : d.addressOf data o < 0 ∨ 2 ^ 64 ≤ d.addressOf data (o + 1))
  | extent {o : Int} (mem : o ∈ d.offsetSet)
    (outside : d.addressOf data o < e.start ∨ e.stop < d.addressOf data (o + 1))

theorem Descriptor.addressOf_mono {o o' : Int} (le : o ≤ o') :
    d.addressOf data o ≤ d.addressOf data o' := by
  have scaled := mul_le_mul_of_nonneg_right le (Int.natCast_nonneg d.elementType.size)
  rw [addressOf, addressOf]
  omega

/-- A tensor with a span inside the extent has no element that strays. -/
theorem Descriptor.not_strays_of_span {ends : Span} (spanned : d.span = .ok (some ends))
    (inside : e.admit d data = .ok ()) : ¬ d.Strays data e := by
  obtain ⟨-, least, greatest, lowWord, highWord⟩ := Layout.ends_of_span spanned
  obtain ⟨⟨first, last⟩, start, stop⟩ := (Extent.admit_eq_ok_iff_of_span spanned).1 inside
  have words : (wordCount : Int) = 2 ^ 64 := by decide
  intro strays
  -- every element lies between those at the ends of the span
  have between {o : Int} (mem : o ∈ d.offsetSet) :
      (ends.low ≤ o ∧ o ≤ ends.high) ∧ d.addressOf data ends.low ≤ d.addressOf data o ∧
        d.addressOf data (o + 1) ≤ d.addressOf data (ends.high + 1) := by
    refine ⟨⟨least.2 mem, greatest.2 mem⟩, addressOf_mono (least.2 mem), addressOf_mono ?_⟩
    exact Int.add_le_add_right (greatest.2 mem) 1
  cases strays with
  | offset mem beyond =>
    have := between mem
    omega
  | address mem beyond =>
    have := between mem
    omega
  | extent mem outside =>
    have := between mem
    omega

namespace Extent

/-- **A tensor lies inside an extent if none of its elements strays from it.** -/
theorem admit_eq_ok_iff (valid : d.validate = .ok ()) :
    e.admit d data = .ok () ↔ ¬ d.Strays data e := by
  obtain ⟨length, counted⟩ := Layout.countOf_of_validate valid
  by_cases none : d.count = 0
  · refine iff_of_true (admit_of_no_elements valid none) fun strays => ?_
    cases strays with
    | offset mem | address mem | extent mem => exact Layout.not_mem_offsetSet none _ mem
  · have pos := Layout.one_le_of_countOf counted none
    have least := Layout.isLeast_lowest length pos
    have greatest := Layout.isGreatest_highest length pos
    have words : (wordCount : Int) = 2 ^ 64 := by decide
    have spanned := Layout.span_eq_ite length counted none
    split at spanned
    · next ends =>
      refine ⟨Descriptor.not_strays_of_span spanned, fun inside => ?_⟩
      rw [admit_eq_ok_iff_of_span spanned, words]
      refine ⟨⟨?_, ?_⟩, ?_, ?_⟩
      · exact Int.not_lt.1 fun before => inside (.address least.1 (.inl before))
      · exact Int.not_le.1 fun behind => inside (.address greatest.1 (.inr behind))
      · exact Int.not_lt.1 fun before => inside (.extent least.1 (.inl before))
      · exact Int.not_lt.1 fun behind => inside (.extent greatest.1 (.inr behind))
    · next ends =>
      -- the offset at one of the two ends is no word
      refine iff_of_false (fun ok => ?_) fun inside => ?_
      · rw [ Extent.admit, Descriptor.reach, spanned] at ok
        cases ok
      · rcases not_and_or.1 ends with low | high
        · exact inside (.offset least.1 (.inl (Int.not_le.1 low)))
        · exact inside (.offset greatest.1 (.inr (Int.not_lt.1 high)))

/-- A valid descriptor is refused for its shape. -/
theorem kind_of_admit {f : Fault} (valid : d.validate = .ok ()) (refused : e.admit d data = .error f) :
    f.kind = .invalidShape := by
  obtain ⟨length, -⟩ := Layout.countOf_of_validate valid
  have span {f : Fault} (refused : d.span = .error f) : f.kind = .invalidShape :=
    (Layout.refuses_of_span refused).resolve_left fun differ => differ.1 length
  cases spanned : d.span with
  | error g =>
    rw [ Extent.admit, Descriptor.reach, spanned] at refused
    cases refused
    exact span spanned
  | ok ends =>
    cases ends with
    | none =>
      rw [ Extent.admit, Descriptor.reach, spanned] at refused
      cases refused
    | some ends =>
      rw [ Extent.admit, Descriptor.reach_of_span spanned] at refused
      by_cases beyond : d.addressOf data ends.low < 0 ∨
          wordCount ≤ d.addressOf data (ends.high + 1)
      · rw [if_pos beyond] at refused
        cases refused
        rfl
      · rw [if_neg beyond] at refused
        simp only at refused
        split at refused
        · cases refused
        · cases refused
          rfl

end Extent

end SharedTensor
