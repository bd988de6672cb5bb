import Mathlib.Algebra.BigOperators.Ring.List
import Mathlib.Algebra.Order.BigOperators.GroupWithZero.List
import SharedTensor.Proofs.Create
import SharedTensor.Proofs.Layout

/-!
# Counting elements

The elements of a shape are counted by multiplying its dimensions from the first to the last, and
the count is given up where a product on the way is no machine word. So a shape is counted if and
only if no dimension is negative and the dimensions up to any place have a product that is a word
(`countOf_eq_ok_iff`). As long as no dimension is zero, the products on the way only grow, and the
last one decides. An empty dimension makes the whole product zero, but only from its own place on: if
the dimensions before it have gone too far by then (`Late`), a shape without elements is refused, and
in another order of its dimensions it is counted (`count_depends_on_order`). Otherwise the count is
the exact product, whatever the order (`count_exact`).
-/

namespace SharedTensor.Layout

variable {shape shape' : List Int64} {n : Nat}

theorem volume_eq_prod (shape : List Int64) : volume shape = (shape.map Int64.toInt).prod := by
  induction shape with
  | nil => rfl
  | cons d ds ih => rw [volume, ih, List.map_cons, List.prod_cons]

theorem volume_append (before after : List Int64) :
    volume (before ++ after) = volume before * volume after := by
  simp only [volume_eq_prod, List.map_append, List.prod_append]

theorem volume_perm (perm : shape'.Perm shape) : volume shape' = volume shape := by
  rw [volume_eq_prod, volume_eq_prod]
  exact (perm.map Int64.toInt).prod_eq

theorem volume_nonneg (nonneg : ∀ d ∈ shape, 0 ≤ d.toInt) : 0 ≤ volume shape := by
  rw [volume_eq_prod]
  refine List.prod_nonneg fun x mem => ?_
  obtain ⟨d, hd, rfl⟩ := List.mem_map.1 mem
  exact nonneg d hd

/-! ## The products on the way -/

/-- The product of the dimensions and `acc` is found if no dimension is negative and every product on
the way is a word. -/
theorem countFrom_eq_ok_iff {ds : List Int64} {acc : Nat} (hacc : acc < wordCount) :
    countFrom shape acc ds = .ok n ↔
      (∀ d ∈ ds, 0 ≤ d.toInt) ∧ (n : Int) = acc * volume ds ∧
        ∀ before, before <+: ds → acc * volume before < wordCount := by
  induction ds generalizing acc with
  | nil =>
    simp only [countFrom, volume, List.prefix_nil, Int.mul_one]
    constructor
    · intro h
      obtain rfl : acc = n := Except.ok.inj h
      refine ⟨by simp, rfl, ?_⟩
      rintro before rfl
      simpa only [volume, Int.mul_one] using Int.ofNat_lt.2 hacc
    · rintro ⟨-, h, -⟩
      rw [Int.ofNat_inj.1 h]
  | cons d ds ih =>
    rw [countFrom]
    by_cases negative : d.toInt < 0
    · rw [if_pos negative]
      refine ⟨fun ok => ?_, fun h => ?_⟩
      · cases ok
      · have := h.1 d List.mem_cons_self
        omega
    · have nonneg : 0 ≤ d.toInt := Int.not_lt.1 negative
      have cast : ((acc * d.toInt.toNat : Nat) : Int) = acc * d.toInt := by
        rw [Nat.cast_mul, Int.toNat_of_nonneg nonneg]
      rw [if_neg negative]
      by_cases word : acc * d.toInt.toNat < wordCount
      · rw [if_pos word, ih word, cast, volume, Int.mul_assoc, List.forall_mem_cons]
        constructor
        · rintro ⟨others, exact, words⟩
          refine ⟨⟨nonneg, others⟩, exact, fun before isPrefix => ?_⟩
          rcases List.prefix_cons_iff.1 isPrefix with rfl | ⟨rest, rfl, restPrefix⟩
          · simpa only [volume, Int.mul_one] using Int.ofNat_lt.2 hacc
          · rw [volume, ← Int.mul_assoc]
            exact words rest restPrefix
        · rintro ⟨⟨-, others⟩, exact, words⟩
          refine ⟨others, exact, fun before isPrefix => ?_⟩
          rw [Int.mul_assoc]
          exact words (d :: before) ((List.prefix_cons_inj d).2 isPrefix)
      · -- the product up to this dimension is already too large
        rw [if_neg word]
        refine ⟨fun ok => ?_, fun h => ?_⟩
        · cases ok
        · have up := h.2.2 [d] ⟨ds, rfl⟩
          rw [volume, volume, Int.mul_one, ← cast] at up
          exact absurd (Int.ofNat_lt.1 up) word

/-- **A shape is counted** if no dimension is negative and the dimensions up to any place have a
product that is a word. -/
theorem countOf_eq_ok_iff :
    countOf shape = .ok n ↔
      (∀ d ∈ shape, 0 ≤ d.toInt) ∧ (n : Int) = volume shape ∧
        ∀ before, before <+: shape → volume before < wordCount := by
  have counted := @countFrom_eq_ok_iff shape n shape 1 (by decide)
  simp only [Nat.cast_one, Int.one_mul] at counted
  exact counted

/-! ## Empty dimensions -/

/-- Some empty dimension stands behind others whose product is no word. -/
def Late (shape : List Int64) : Prop :=
  ∃ before after, shape = before ++ 0 :: after ∧ wordCount ≤ volume before

theorem not_late_of_filled (filled : 0 ∉ shape) : ¬ Late shape := by
  rintro ⟨before, after, rfl, -⟩
  exact filled (by simp)

/-- A shape without elements has an empty dimension, and the ones before its first have some. -/
theorem exists_empty_of_volume_eq_zero (nonneg : ∀ d ∈ shape, 0 ≤ d.toInt)
    (empty : volume shape = 0) :
    ∃ before after, shape = before ++ 0 :: after ∧ 1 ≤ volume before := by
  have mem : (0 : Int64) ∈ shape := by
    rw [volume_eq_prod, List.prod_eq_zero_iff] at empty
    obtain ⟨d, hd, zero⟩ := List.mem_map.1 empty
    obtain rfl : d = 0 := Int64.toInt_inj.1 zero
    exact hd
  obtain ⟨before, after, rfl, first⟩ := List.eq_append_cons_of_mem mem
  refine ⟨before, after, rfl, one_le_volume fun d hd => ?_⟩
  have pos : d.toInt ≠ 0 := fun zero => by
    obtain rfl : d = 0 := Int64.toInt_inj.1 zero
    exact first hd
  have := nonneg d (List.mem_append_left _ hd)
  omega

/-- If the product of all dimensions is a word, then so are those on the way, unless an empty
dimension comes too late. -/
theorem volume_lt_of_prefix (nonneg : ∀ d ∈ shape, 0 ≤ d.toInt) (word : volume shape < wordCount)
    (inTime : ¬ Late shape) {before : List Int64} (isPrefix : before <+: shape) :
    volume before < wordCount := by
  obtain ⟨rest, rfl⟩ := isPrefix
  have first : 0 ≤ volume before := volume_nonneg fun d hd => nonneg d (List.mem_append_left _ hd)
  have nonneg' : ∀ d ∈ rest, 0 ≤ d.toInt := fun d hd => nonneg d (List.mem_append_right _ hd)
  have second : 0 ≤ volume rest := volume_nonneg nonneg'
  by_contra beyond
  by_cases empty : volume rest = 0
  · -- up to the first empty dimension of the rest the product does not get smaller
    obtain ⟨between, after, rfl, grows⟩ := exists_empty_of_volume_eq_zero nonneg' empty
    refine inTime ⟨before ++ between, after, (List.append_assoc ..).symm, ?_⟩
    rw [volume_append]
    nlinarith
  · rw [volume_append] at word
    have grows : 1 ≤ volume rest := by omega
    nlinarith

/-- **A shape is counted as the exact product of its dimensions**, unless an empty one comes too
late. -/
theorem countOf_eq_ok_iff_not_late :
    countOf shape = .ok n ↔
      ¬ Late shape ∧ (∀ d ∈ shape, 0 ≤ d.toInt) ∧ (n : Int) = (shape.map Int64.toInt).prod ∧
        n < wordCount := by
  rw [countOf_eq_ok_iff, ← volume_eq_prod]
  constructor
  · rintro ⟨nonneg, exact, words⟩
    refine ⟨?_, nonneg, exact, ?_⟩
    · rintro ⟨before, after, rfl, beyond⟩
      exact absurd (words before (List.prefix_append ..)) (Int.not_lt.2 beyond)
    · have word := words shape List.prefix_rfl
      rw [← exact] at word
      exact Int.ofNat_lt.1 word
  · rintro ⟨inTime, nonneg, exact, word⟩
    refine ⟨nonneg, exact, fun before isPrefix => ?_⟩
    exact volume_lt_of_prefix nonneg (exact ▸ Int.ofNat_lt.2 word) inTime isPrefix

/-! ## The order of the dimensions -/

/-- In two orders of the same dimensions, the elements are counted alike, unless an empty dimension
comes too late in one of them. -/
theorem countOf_eq_ok_congr (perm : shape'.Perm shape) (inTime : ¬ Late shape)
    (inTime' : ¬ Late shape') : countOf shape' = .ok n ↔ countOf shape = .ok n := by
  have signs : (∀ d ∈ shape', 0 ≤ d.toInt) ↔ ∀ d ∈ shape, 0 ≤ d.toInt :=
    forall_congr' fun d => imp_congr_left perm.mem_iff
  have product : (shape'.map Int64.toInt).prod = (shape.map Int64.toInt).prod :=
    (perm.map Int64.toInt).prod_eq
  rw [countOf_eq_ok_iff_not_late, countOf_eq_ok_iff_not_late, signs, product]
  simp only [inTime, inTime', not_false_eq_true, true_and]

/-- A layout has its number of elements if it can be counted, and else the greatest word. -/
theorem count_congr {l l' : Layout}
    (alike : ∀ n, countOf l'.shape = .ok n ↔ countOf l.shape = .ok n) : l'.count = l.count := by
  cases counted : countOf l.shape with
  | ok n => rw [count_eq counted, count_eq ((alike n).2 counted)]
  | error f =>
    cases counted' : countOf l'.shape with
    | ok n =>
      have impossible := (alike n).1 counted'
      rw [counted] at impossible
      cases impossible
    | error f' => rw [count, count, counted, counted']

/-- **What is counted is the exact product of the dimensions, whatever their order.** A shape has a
number of elements if no dimension is negative, the product of all of them is a machine word, and no
empty dimension stands behind others whose product is none; otherwise it is refused for its shape.
Two orders of the same dimensions that are both counted have the same number. If in neither order an
empty dimension comes too late, as without any empty dimension, then both are counted or none is, and
of two descriptors with as many strides both are valid or none is, and they have the same number of
elements. -/
theorem count_exact (shape : List Int64) :
    (∀ n, countOf shape = .ok n ↔
      ¬ Late shape ∧ (∀ d ∈ shape, 0 ≤ d.toInt) ∧ (n : Int) = (shape.map Int64.toInt).prod ∧
        n < wordCount) ∧
      (∀ f, countOf shape = .error f → f.kind = .invalidShape) ∧
      (0 ∉ shape → ∀ shape', shape'.Perm shape → ¬ Late shape') ∧
      ∀ shape', shape'.Perm shape →
        (∀ n n', countOf shape = .ok n → countOf shape' = .ok n' → n' = n) ∧
        (¬ Late shape → ¬ Late shape' →
          (∀ n, countOf shape' = .ok n ↔ countOf shape = .ok n) ∧
          ∀ d d' : Descriptor, d.shape = shape → d'.shape = shape' →
            d'.strides.length = d.strides.length →
            (d'.validate = .ok () ↔ d.validate = .ok ()) ∧ d'.count = d.count) := by
  refine ⟨fun n => countOf_eq_ok_iff_not_late, fun f refused => kind_of_countFrom refused,
    fun filled shape' perm => not_late_of_filled fun mem => filled (perm.mem_iff.1 mem),
    fun shape' perm => ⟨fun n n' counted counted' => ?_, fun inTime inTime' => ?_⟩⟩
  · obtain ⟨exact, -⟩ := countOf_eq_ok counted
    obtain ⟨exact', -⟩ := countOf_eq_ok counted'
    rw [volume_perm perm, ← exact] at exact'
    exact Int.ofNat_inj.1 exact'
  · have alike (n : Nat) : countOf shape' = .ok n ↔ countOf shape = .ok n :=
      countOf_eq_ok_congr perm inTime inTime'
    refine ⟨alike, ?_⟩
    rintro d d' rfl rfl strides
    refine ⟨?_, count_congr alike⟩
    rw [validate_eq_ok_iff, validate_eq_ok_iff, strides, perm.length_eq]
    simp only [alike]

/-- An empty dimension in the middle, before the others have gone too far, and in front. -/
theorem count_exact_reordered :
    let shape : List Int64 := [2 ^ 33, 0, 2 ^ 33]
    let shape' : List Int64 := [0, 2 ^ 33, 2 ^ 33]
    (shape'.Perm shape ∧ ¬ Late shape ∧ ¬ Late shape') ∧ countOf shape = .ok 0 ∧
      countOf shape' = .ok 0 ∧
      ∀ d d' : Descriptor, d.shape = shape → d'.shape = shape' →
        d'.strides.length = d.strides.length → d'.count = d.count := by
  intro shape shape'
  have counted : countOf shape = .ok 0 := by decide +kernel
  have counted' : countOf shape' = .ok 0 := by decide +kernel
  have perm : shape'.Perm shape := by decide +kernel
  obtain ⟨exact, -, -, orders⟩ := count_exact shape
  have inTime : ¬ Late shape := ((exact 0).1 counted).1
  have inTime' : ¬ Late shape' := (((count_exact shape').1 0).1 counted').1
  obtain ⟨-, alike⟩ := orders shape' perm
  obtain ⟨-, descriptors⟩ := alike inTime inTime'
  exact ⟨⟨perm, inTime, inTime'⟩, counted, counted', fun d d' hd hd' strides =>
    (descriptors d d' hd hd' strides).2⟩

/-- Behind dimensions whose product is no word an empty dimension comes too late: the shape is
refused, although it has no elements, and the same dimensions are counted with the empty one in
front. -/
theorem count_depends_on_order :
    let shape : List Int64 := [2 ^ 32, 2 ^ 32, 0]
    let shape' : List Int64 := [0, 2 ^ 32, 2 ^ 32]
    (∀ d ∈ shape, 0 ≤ d.toInt) ∧ (shape.map Int64.toInt).prod = 0 ∧ shape'.Perm shape ∧
      countOf shape = .error (.countOverflow shape) ∧ countOf shape' = .ok 0 ∧
      ¬ (∀ (shape : List Int64) (n : Nat), (∀ d ∈ shape, 0 ≤ d.toInt) →
        (n : Int) = (shape.map Int64.toInt).prod → n < wordCount → countOf shape = .ok n) := by
  intro shape shape'
  have perm : shape'.Perm shape := by decide +kernel
  have counted' : countOf shape' = .ok 0 := by decide +kernel
  have nonneg : ∀ d ∈ shape, 0 ≤ d.toInt := fun d mem =>
    (countOf_eq_ok_iff.1 counted').1 d (perm.mem_iff.2 mem)
  have empty : (shape.map Int64.toInt).prod = 0 := by decide +kernel
  have refused : countOf shape = .error (.countOverflow shape) := by decide +kernel
  refine ⟨nonneg, empty, perm, refused, counted', fun claim => ?_⟩
  have counted := claim shape 0 nonneg empty.symm (by decide)
  rw [refused] at counted
  cases counted

end SharedTensor.Layout
