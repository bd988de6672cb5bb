import Mathlib.Data.List.Forall2
import Mathlib.Tactic.Linarith
import Mathlib.Tactic.Ring
import SharedTensor.Layout.Index

/-!
# How far a layout reaches

The span of a layout is exact: its ends are the sums of what each dimension reaches backwards and
forwards (`spanFrom_eq_some`), and the offset of every multi-index lies between them
(`offset_mem`). Walking through a layout visits multi-indices of its shape only (`walk_mem`). The
strides of the row-major layout may have been clamped, but only where nothing is reached with them,
so its offsets are the numbers below its count (`rowMajor_reach`).
-/

namespace SharedTensor.Layout

/-! ## Counting elements -/

/-- The number of multi-indices of a shape. -/
def volume : List Int64 → Int
  | [] => 1
  | d :: ds => d.toInt * volume ds

/-- What is counted is the number of multi-indices, and no dimension is negative. -/
theorem countFrom_eq_ok {shape ds : List Int64} {acc n : Nat} (hacc : acc < wordCount)
    (h : countFrom shape acc ds = .ok n) :
    (n : Int) = acc * volume ds ∧ n < wordCount ∧ ∀ d ∈ ds, 0 ≤ d.toInt := by
  induction ds generalizing acc with
  | nil =>
    obtain rfl : acc = n := Except.ok.inj h
    exact ⟨by simp [volume], hacc, by simp⟩
  | cons d ds ih =>
    simp only [countFrom] at h
    split at h
    · cases h
    · next hd =>
      split at h
      · next hlt =>
        obtain ⟨heq, hn, hds⟩ := ih hlt h
        have hd' : (0 : Int) ≤ d.toInt := Int.not_lt.1 hd
        refine ⟨?_, hn, ?_⟩
        · rw [heq, volume, Nat.cast_mul, Int.toNat_of_nonneg hd', Int.mul_assoc]
        · rintro x (_ | ⟨_, hx⟩)
          · exact hd'
          · exact hds x hx
      · cases h

theorem countOf_eq_ok {shape : List Int64} {n : Nat} (h : countOf shape = .ok n) :
    (n : Int) = volume shape ∧ n < wordCount ∧ ∀ d ∈ shape, 0 ≤ d.toInt := by
  have hfrom := countFrom_eq_ok (by decide) h
  rwa [Nat.cast_one, Int.one_mul] at hfrom

/-- A shape with elements has no empty dimension. -/
theorem one_le_of_volume_ne_zero {shape : List Int64} (nonneg : ∀ d ∈ shape, 0 ≤ d.toInt)
    (h : volume shape ≠ 0) : ∀ d ∈ shape, 1 ≤ d.toInt := by
  induction shape with
  | nil => simp
  | cons d ds ih =>
    rw [volume] at h
    have hd : d.toInt ≠ 0 := left_ne_zero_of_mul h
    have hds : volume ds ≠ 0 := right_ne_zero_of_mul h
    rintro x (_ | ⟨_, hx⟩)
    · have := nonneg d (by simp)
      omega
    · exact ih (fun y hy => nonneg y (by simp [hy])) hds x hx

theorem one_le_of_countOf {shape : List Int64} {n : Nat} (h : countOf shape = .ok n)
    (filled : n ≠ 0) : ∀ d ∈ shape, 1 ≤ d.toInt := by
  obtain ⟨volume, -, nonneg⟩ := countOf_eq_ok h
  exact one_le_of_volume_ne_zero nonneg (volume ▸ Int.natCast_ne_zero.2 filled)

theorem volume_lt_of_countOf {shape : List Int64} {n : Nat} (h : countOf shape = .ok n) :
    volume shape < 2 ^ 64 := by
  obtain ⟨volume, words, -⟩ := countOf_eq_ok h
  rw [← volume]
  exact_mod_cast words

theorem one_le_volume {shape : List Int64} (h : ∀ d ∈ shape, 1 ≤ d.toInt) : 1 ≤ volume shape := by
  induction shape with
  | nil => exact le_rfl
  | cons d ds ih =>
    have hd : 1 ≤ d.toInt := h d (by simp)
    have hds := ih fun x hx => h x (by simp [hx])
    rw [volume]
    nlinarith

/-! ## The span -/

/-- How far the dimensions reach backwards. -/
def lowest : List (Int64 × Int64) → Int
  | [] => 0
  | (dim, stride) :: rest => min 0 ((dim.toInt - 1) * stride.toInt) + lowest rest

/-- How far the dimensions reach forwards. -/
def highest : List (Int64 × Int64) → Int
  | [] => 0
  | (dim, stride) :: rest => max 0 ((dim.toInt - 1) * stride.toInt) + highest rest

theorem highest_nonneg (dims : List (Int64 × Int64)) : 0 ≤ highest dims := by
  induction dims with
  | nil => exact le_rfl
  | cons dim rest ih =>
    have hmax := le_max_left 0 ((dim.1.toInt - 1) * dim.2.toInt)
    rw [highest]
    omega

/-- The span is widened by exactly what the dimensions reach. -/
theorem spanFrom_eq_some {acc s : Span} {dims : List (Int64 × Int64)}
    (h : spanFrom acc dims = some s) :
    s.low = acc.low + lowest dims ∧ s.high = acc.high + highest dims := by
  induction dims generalizing acc with
  | nil =>
    obtain rfl : acc = s := Option.some.inj h
    exact ⟨(Int.add_zero _).symm, (Int.add_zero _).symm⟩
  | cons dim rest ih =>
    obtain ⟨dim, stride⟩ := dim
    simp only [spanFrom, Option.ite_none_right_eq_some] at h
    obtain ⟨hlow, hhigh⟩ := ih h.2
    rw [hlow, hhigh, lowest, highest]
    by_cases hneg : (dim.toInt - 1) * stride.toInt < 0
    · rw [if_pos hneg, min_eq_right hneg.le, max_eq_left hneg.le]
      exact ⟨Int.add_assoc .., by rw [Int.zero_add]⟩
    · have hpos := Int.not_lt.1 hneg
      rw [if_neg hneg, min_eq_left hpos, max_eq_right hpos]
      exact ⟨by rw [Int.zero_add], Int.add_assoc ..⟩

/-- A layout that has a span has strides for its dimensions and elements. -/
theorem span_eq_some {l : Layout} {s : Span} (h : l.span = .ok (some s)) :
    l.shape.length = l.strides.length ∧
      (∃ n, countOf l.shape = .ok n ∧ n ≠ 0) ∧
      s.low = lowest (l.shape.zip l.strides) ∧ s.high = highest (l.shape.zip l.strides) := by
  unfold span at h
  split at h
  · cases h
  · next hlength =>
    split at h
    · cases h
    · cases h
    · next n hn hcount =>
      split at h
      · cases h
      · next s' hspan =>
        obtain rfl : s' = s := Option.some.inj (Except.ok.inj h)
        obtain ⟨hlow, hhigh⟩ := spanFrom_eq_some hspan
        refine ⟨Decidable.not_not.1 hlength, ⟨n, hcount, hn⟩, ?_, ?_⟩
        · rw [hlow, Int.zero_add]
        · rw [hhigh, Int.zero_add]

theorem span_eq_none {l : Layout} (h : l.span = .ok none) : countOf l.shape = .ok 0 := by
  unfold span at h
  split at h
  · cases h
  · split at h
    · cases h
    · assumption
    · split at h <;> cases h

theorem count_eq {l : Layout} {n : Nat} (counted : countOf l.shape = .ok n) : l.count = n := by
  rw [count, counted]

theorem validate_eq_ok_iff {l : Layout} :
    l.validate = .ok () ↔ l.shape.length = l.strides.length ∧ ∃ n, countOf l.shape = .ok n := by
  unfold validate
  split
  · simp_all
  · cases countOf l.shape <;> simp_all

/-- A valid layout has its number of elements. -/
theorem countOf_of_validate {l : Layout} (valid : l.validate = .ok ()) :
    l.shape.length = l.strides.length ∧ countOf l.shape = .ok l.count := by
  obtain ⟨length, n, counted⟩ := validate_eq_ok_iff.1 valid
  exact ⟨length, by rw [count_eq counted, counted]⟩

/-- So has one with a span. -/
theorem countOf_of_span {l : Layout} {ends : Option Span} (h : l.span = .ok ends) :
    countOf l.shape = .ok l.count := by
  cases ends with
  | none => rw [count_eq (span_eq_none h), span_eq_none h]
  | some ends =>
    obtain ⟨-, ⟨n, counted, -⟩, -⟩ := span_eq_some h
    rw [count_eq counted, counted]

theorem count_eq_zero_iff {l : Layout} : l.count = 0 ↔ countOf l.shape = .ok 0 := by
  unfold count
  cases countOf l.shape with
  | error f => simp [wordCount]
  | ok n => simp

/-- Without elements there is no span, whatever the strides. -/
theorem span_of_no_elements {l : Layout} (length : l.shape.length = l.strides.length)
    (none : countOf l.shape = .ok 0) : l.span = .ok Option.none := by
  rw [span, if_neg (not_not.2 length), none]
  rfl

/-! ## Multi-indices -/

/-- Is it a multi-index of the shape? -/
def IsIndex (shape : List Int64) (index : List Int) : Prop :=
  List.Forall₂ (fun d i => 0 ≤ i ∧ i < d.toInt) shape index

theorem isIndex_zero {shape : List Int64} (h : ∀ d ∈ shape, 1 ≤ d.toInt) :
    IsIndex shape (shape.map fun _ => 0) := by
  induction shape with
  | nil => exact .nil
  | cons d ds ih =>
    have hd : 0 < d.toInt := Int.lt_of_lt_of_le Int.zero_lt_one (h d (by simp))
    exact .cons ⟨le_rfl, hd⟩ (ih fun x hx => h x (by simp [hx]))

/-- After a multi-index comes a multi-index. -/
theorem IsIndex.successor {shape : List Int64} {index : List Int} (h : IsIndex shape index) :
    IsIndex shape (successor shape index).2 := by
  induction h with
  | nil => exact .nil
  | @cons d i ds is hi _ ih =>
    obtain ⟨hi₀, hi₁⟩ := hi
    cases hs : Layout.successor ds is with
    | mk carry next =>
      rw [hs] at ih
      cases carry with
      | false =>
        rw [Layout.successor, hs]
        exact .cons ⟨hi₀, hi₁⟩ ih
      | true =>
        simp only [Layout.successor, hs]
        split
        · next hlt => exact .cons ⟨by omega, hlt⟩ ih
        · exact .cons ⟨le_rfl, by omega⟩ ih

/-- An index stays between the ends of what its dimension reaches. -/
theorem mul_mem_reach {i d s : Int} (h₀ : 0 ≤ i) (h₁ : i < d) :
    min 0 ((d - 1) * s) ≤ i * s ∧ i * s ≤ max 0 ((d - 1) * s) := by
  have hi : i ≤ d - 1 := by omega
  rcases le_total 0 s with hs | hs
  · refine ⟨(min_le_left _ _).trans (mul_nonneg h₀ hs), le_trans ?_ (le_max_right _ _)⟩
    exact mul_le_mul_of_nonneg_right hi hs
  · refine ⟨le_trans (min_le_right _ _) ?_,
      (mul_nonpos_of_nonneg_of_nonpos h₀ hs).trans (le_max_left _ _)⟩
    exact mul_le_mul_of_nonpos_right hi hs

/-- **The offset of a multi-index lies between the ends of the span.** -/
theorem offset_mem {shape strides : List Int64} {index : List Int} (h : IsIndex shape index) :
    lowest (shape.zip strides) ≤ offset strides index ∧
      offset strides index ≤ highest (shape.zip strides) := by
  induction h generalizing strides with
  | nil => simp [offset, lowest, highest]
  | @cons d i ds is hi _ ih =>
    cases strides with
    | nil => simp [offset, lowest, highest]
    | cons s ss =>
      obtain ⟨hlow, hhigh⟩ := mul_mem_reach (s := s.toInt) hi.1 hi.2
      obtain ⟨ihlow, ihhigh⟩ := @ih ss
      rw [List.zip_cons_cons, offset, lowest, highest]
      omega

/-- A walk stays within the span. -/
theorem walk_mem {l : Layout} {n : Nat} {index : List Int} (h : IsIndex l.shape index) :
    ∀ o ∈ l.walk n index, lowest (l.shape.zip l.strides) ≤ o ∧
      o ≤ highest (l.shape.zip l.strides) := by
  induction n generalizing index with
  | zero => simp [walk]
  | succ n ih =>
    rw [walk]
    rintro o (_ | ⟨_, ho⟩)
    · exact offset_mem h
    · exact ih h.successor o ho

/-! ## The row-major layout -/

theorem length_rowMajorStrides (shape : List Int64) :
    (rowMajorStrides shape).length = shape.length := by
  induction shape with
  | nil => rfl
  | cons d ds ih => rw [rowMajorStrides, List.length_cons, List.length_cons, ih]

theorem toInt_ofIntClamp_of_nonneg {x : Int} (h : 0 ≤ x) :
    (Int64.ofIntClamp x).toInt = min x (2 ^ 63 - 1) := by
  have hmin : Int64.minValue.toInt ≤ x := by
    rw [Int64.toInt_minValue]
    omega
  rcases le_total x (2 ^ 63 - 1) with hx | hx
  · rw [Int64.toInt_ofIntClamp hmin (by rwa [Int64.toInt_maxValue]), min_eq_left hx]
  · rw [min_eq_right hx, Int64.ofIntClamp, dif_pos hmin]
    split
    · next hle =>
      rw [Int64.toInt_maxValue] at hle
      rw [Int64.toInt_ofIntLE]
      omega
    · rw [Int64.toInt_maxValue]

/-- A product of dimensions is clamped at its end, however it is computed. -/
theorem toInt_clampedProduct {shape : List Int64} (h : ∀ d ∈ shape, 1 ≤ d.toInt) :
    (clampedProduct shape).toInt = min (volume shape) (2 ^ 63 - 1) := by
  induction shape with
  | nil => decide
  | cons d ds ih =>
    have hd : 1 ≤ d.toInt := h d (by simp)
    have hds : ∀ x ∈ ds, 1 ≤ x.toInt := fun x hx => h x (by simp [hx])
    have hvolume := one_le_volume hds
    rw [clampedProduct, ih hds, volume]
    rcases le_total (volume ds) (2 ^ 63 - 1) with hle | hle
    · rw [min_eq_left hle, toInt_ofIntClamp_of_nonneg (by nlinarith), Int.mul_comm]
    · rw [min_eq_right hle, toInt_ofIntClamp_of_nonneg (by nlinarith),
        min_eq_right (by nlinarith), min_eq_right (by nlinarith)]

/-- **The row-major layout reaches its last element and nothing before its first.** A stride that
was clamped belongs to a dimension of one, since there are less than `2 ^ 64` elements. -/
theorem rowMajor_reach {shape : List Int64} (h : ∀ d ∈ shape, 1 ≤ d.toInt)
    (bound : volume shape < 2 ^ 64) :
    lowest (shape.zip (rowMajorStrides shape)) = 0 ∧
      highest (shape.zip (rowMajorStrides shape)) = volume shape - 1 := by
  induction shape with
  | nil => exact ⟨rfl, rfl⟩
  | cons d ds ih =>
    have hd : 1 ≤ d.toInt := h d (by simp)
    have hds : ∀ x ∈ ds, 1 ≤ x.toInt := fun x hx => h x (by simp [hx])
    have hvolume := one_le_volume hds
    rw [volume] at bound ⊢
    obtain ⟨hlow, hhigh⟩ := ih hds (by nlinarith)
    have reach : (d.toInt - 1) * (clampedProduct ds).toInt = d.toInt * volume ds - volume ds := by
      rw [toInt_clampedProduct hds]
      rcases le_or_gt (volume ds) (2 ^ 63 - 1) with hle | hgt
      · rw [min_eq_left hle]
        ring
      · have hone : d.toInt = 1 := by
          by_contra hne
          have htwo : 2 ≤ d.toInt := by omega
          have hmul : 2 * volume ds ≤ d.toInt * volume ds :=
            mul_le_mul_of_nonneg_right htwo (by omega)
          omega
        rw [hone]
        ring
    have nonneg : 0 ≤ d.toInt * volume ds - volume ds := by nlinarith
    rw [rowMajorStrides, List.zip_cons_cons, lowest, highest, reach, hlow, hhigh,
      min_eq_left nonneg, max_eq_right nonneg]
    omega

end SharedTensor.Layout
