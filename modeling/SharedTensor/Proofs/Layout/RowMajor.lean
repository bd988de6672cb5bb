import SharedTensor.Proofs.Layout.Walk

/-!
# The row-major layout

The strides of a shape are clamped where a product of dimensions is no signed word, and a shape may
have twice as many elements as there are signed words that are not negative. Still the row-major
layout reaches from its first element to its last (`span_rowMajor`) and needs room for just its
elements (`required_rowMajor`), unless the last one is too far for a signed word; then the layout is
refused. A stride that has been clamped never changes an address (`rowMajor_counts_up`).
-/

namespace SharedTensor.Layout

variable {shape : List Int64} {n : Nat}

/-- The row-major layout of a shape with elements reaches from the first to the last of them. -/
theorem span_rowMajor (count : countOf shape = .ok n) (filled : n ≠ 0) :
    (rowMajor shape).span =
      if n ≤ 2 ^ 63 then .ok (some ⟨0, n - 1⟩)
      else .error (.spanOverflow shape (rowMajorStrides shape)) := by
  obtain ⟨volume, -, -⟩ := countOf_eq_ok count
  obtain ⟨first, last⟩ :=
    rowMajor_reach (one_le_of_countOf count filled) (volume_lt_of_countOf count)
  rw [← volume] at last
  have length := (length_rowMajorStrides shape).symm
  have spanned := @span_eq_ite (rowMajor shape) n length count filled
  simp only [rowMajor, first, last] at spanned
  rw [rowMajor, spanned]
  exact if_congr (by omega) rfl rfl

/-- The row-major layout needs room for just its elements. -/
theorem required_rowMajor (count : countOf shape = .ok n) :
    (rowMajor shape).required =
      if n ≤ 2 ^ 63 then .ok n else .error (.spanOverflow shape (rowMajorStrides shape)) := by
  by_cases filled : n = 0
  · subst filled
    have none : (rowMajor shape).span = .ok none :=
      span_of_no_elements (length_rowMajorStrides shape).symm count
    rw [required, none, if_pos (Nat.zero_le _)]
  · rw [required, span_rowMajor count filled]
    split_ifs with fits
    · have last : ((n : Int) - 1 + 1).toNat = n := by omega
      simp only [Int.lt_irrefl, if_false, last]
    · rfl

theorem eq_of_required_rowMajor {k : Nat} (count : countOf shape = .ok n)
    (h : (rowMajor shape).required = .ok k) : k = n := by
  rw [required_rowMajor count] at h
  split at h
  · exact (Except.ok.inj h).symm
  · cases h

/-- **The row-major layout counts up.** With elements, and not more of them than there are signed
words from zero on, it spans the numbers below its count, needs room for so many elements, and the
multi-index with number `k` has offset `k`. With more elements it is refused. Every multi-index of
any shape that can be counted has the offset that exact strides give it, clamped or not. -/
theorem rowMajor_counts_up (count : countOf shape = .ok n) :
    let l := rowMajor shape
    (n = 0 → l.required = .ok 0) ∧
      (1 ≤ n → n ≤ 2 ^ 63 →
        l.span = .ok (some ⟨0, n - 1⟩) ∧ l.required = .ok n ∧
          ∀ k < n, (indices shape)[k]? = some (digits shape k) ∧
            offset l.strides (digits shape k) = k) ∧
      (2 ^ 63 < n →
        l.span = .error (.spanOverflow shape l.strides) ∧
          l.required = .error (.spanOverflow shape l.strides) ∧
          (Fault.spanOverflow shape l.strides).kind = .invalidShape) ∧
      ∀ index, IsIndex shape index → offset l.strides index = number shape index := by
  intro l
  have required := required_rowMajor count
  refine ⟨fun none => ?_, fun filled fits => ?_, fun many => ?_, fun index isIndex => ?_⟩
  · rw [required, if_pos (by omega), none]
  · have filled' : n ≠ 0 := Nat.one_le_iff_ne_zero.1 filled
    refine ⟨?_, ?_, fun k below => ⟨?_, offset_rowMajor_digits count below⟩⟩
    · rw [span_rowMajor count filled', if_pos fits]
    · rw [required, if_pos fits]
    · rw [indices_eq, size_eq_of_countOf count, List.getElem?_map, List.getElem?_range below]
      rfl
  · refine ⟨?_, ?_, rfl⟩
    · exact (span_rowMajor count (Nat.ne_zero_of_lt many)).trans (if_neg (Nat.not_le.2 many))
    · exact required.trans (if_neg (Nat.not_le.2 many))
  · exact offset_rowMajor isIndex (volume_lt_of_countOf count)

/-- As many elements as can be reached, behind a stride that is clamped; and one row more. -/
theorem rowMajor_counts_up_clamped :
    let shape : List Int64 := [1, 2 ^ 62, 2]
    rowMajorStrides shape = [Int64.maxValue, 2, 1] ∧
      (rowMajor shape).required = .ok (2 ^ 63) ∧
      (∀ k < 2 ^ 63, offset (rowMajorStrides shape) (digits shape k) = k) ∧
      ∃ f, (rowMajor [1, 2 ^ 62 + 1, 2]).required = .error f ∧ f.kind = .invalidShape := by
  intro shape
  have count : countOf shape = .ok (2 ^ 63) := by decide +kernel
  have count' : countOf [1, 2 ^ 62 + 1, 2] = .ok (2 ^ 63 + 2) := by decide +kernel
  obtain ⟨-, fits, -⟩ := rowMajor_counts_up count
  obtain ⟨-, -, many, -⟩ := rowMajor_counts_up count'
  obtain ⟨-, required, numbered⟩ := fits (by decide) le_rfl
  obtain ⟨-, refused, kind⟩ := many (by decide)
  exact ⟨by decide +kernel, required, fun k below => (numbered k below).2, _, refused, kind⟩

end SharedTensor.Layout
