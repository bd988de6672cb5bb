import SharedTensor.Proofs.Layout

/-!
# Walks in row-major order

The multi-indices of a shape in row-major order (`indices`) are the digits of the numbers below the
size of the shape, each dimension being a radix (`indices_eq`), and going on to the next multi-index
is counting up (`successor_digits`). So the offsets that a walk comes by are those of all
multi-indices, one after the other (`offsets_eq`). In the row-major layout the offset of a
multi-index is its number, even where strides have been clamped (`offset_rowMajor`), so the offsets
are the numbers below the count (`rowMajor_offsets`). The ends of the span are offsets too
(`exists_offset_eq_ends`), and a layout is refused its span only if one of them is no machine word
(`span_eq_ite`).
-/

namespace SharedTensor.Layout

/-- Counting up to a product is counting in rows. -/
theorem range_mul (m n : Nat) :
    List.range (m * n) = (List.range m).flatMap fun i => (List.range n).map fun j => i * n + j := by
  induction m with
  | zero => rw [Nat.zero_mul, List.range_zero, List.flatMap_nil]
  | succ m ih =>
    rw [Nat.succ_mul, List.range_add, ih, List.range_succ, List.flatMap_append,
      List.flatMap_singleton]

/-- The multi-indices of a shape in row-major order: the last index moves first. -/
def indices : List Int64 → List (List Int)
  | [] => [[]]
  | d :: ds =>
    (List.range d.toInt.toNat).flatMap fun i : Nat => (indices ds).map fun is => (i : Int) :: is

theorem mem_indices {shape : List Int64} {index : List Int} :
    index ∈ indices shape ↔ IsIndex shape index := by
  induction shape generalizing index with
  | nil =>
    rw [indices, List.mem_singleton, IsIndex, List.forall₂_nil_left_iff]
  | cons d ds ih =>
    simp only [indices, List.mem_flatMap, List.mem_range, List.mem_map]
    constructor
    · rintro ⟨i, hi, is, his, rfl⟩
      exact .cons ⟨Int.natCast_nonneg i, by omega⟩ (ih.1 his)
    · intro h
      cases h with
      | @cons _ i _ is hi his =>
        obtain ⟨n, rfl⟩ := Int.eq_ofNat_of_zero_le hi.1
        exact ⟨n, by omega, is, ih.2 his, rfl⟩

/-- A shape that has a multi-index has no empty dimension. -/
theorem IsIndex.one_le {shape : List Int64} {index : List Int} (h : IsIndex shape index) :
    ∀ d ∈ shape, 1 ≤ d.toInt := by
  induction h with
  | nil => simp
  | cons hi _ ih =>
    rintro x (_ | ⟨_, hx⟩)
    · exact Int.add_one_le_of_lt (Int.lt_of_le_of_lt hi.1 hi.2)
    · exact ih x hx

/-! ## Digits -/

/-- The number of multi-indices of a shape, as a natural number. -/
def size : List Int64 → Nat
  | [] => 1
  | d :: ds => d.toInt.toNat * size ds

theorem cast_size {shape : List Int64} (nonneg : ∀ d ∈ shape, 0 ≤ d.toInt) :
    (size shape : Int) = volume shape := by
  induction shape with
  | nil => rfl
  | cons d ds ih =>
    have hd : 0 ≤ d.toInt := nonneg d List.mem_cons_self
    rw [size, volume, Nat.cast_mul, Int.toNat_of_nonneg hd,
      ih fun x hx => nonneg x (List.mem_cons_of_mem d hx)]

theorem size_eq_of_countOf {shape : List Int64} {n : Nat} (h : countOf shape = .ok n) :
    size shape = n := by
  obtain ⟨volume, -, nonneg⟩ := countOf_eq_ok h
  exact Nat.cast_injective ((cast_size nonneg).trans volume.symm)

theorem size_pos {shape : List Int64} (h : ∀ d ∈ shape, 1 ≤ d.toInt) : 0 < size shape := by
  have volume := one_le_volume h
  rw [← cast_size fun d hd => Int.le_trans Int.one_nonneg (h d hd)] at volume
  exact Int.natCast_pos.1 volume

/-- The multi-index with the given number in row-major order. -/
def digits : List Int64 → Nat → List Int
  | [], _ => []
  | _ :: ds, k => ((k / size ds : Nat) : Int) :: digits ds (k % size ds)

theorem digits_zero (shape : List Int64) : digits shape 0 = shape.map fun _ => 0 := by
  induction shape with
  | nil => rfl
  | cons d ds ih => rw [digits, Nat.zero_div, Nat.zero_mod, ih, List.map_cons, Nat.cast_zero]

theorem digits_row (d : Int64) {ds : List Int64} (i : Nat) {j : Nat} (h : j < size ds) :
    digits (d :: ds) (i * size ds + j) = (i : Int) :: digits ds j := by
  rw [digits, Nat.mul_comm, Nat.mul_add_div (Nat.zero_lt_of_lt h), Nat.div_eq_of_lt h,
    Nat.add_zero, Nat.mul_add_mod, Nat.mod_eq_of_lt h]

/-- **The multi-indices are the digits of the numbers below the size.** -/
theorem indices_eq (shape : List Int64) :
    indices shape = (List.range (size shape)).map (digits shape) := by
  induction shape with
  | nil => rfl
  | cons d ds ih =>
    rw [indices, size, range_mul, List.map_flatMap]
    congr 1
    funext i
    rw [ih, List.map_map, List.map_map]
    refine List.map_congr_left fun j hj => ?_
    exact (digits_row d i (List.mem_range.1 hj)).symm

theorem isIndex_digits {shape : List Int64} {k : Nat} (h : k < size shape) :
    IsIndex shape (digits shape k) := by
  rw [← mem_indices, indices_eq]
  exact List.mem_map_of_mem (List.mem_range.2 h)

/-- **To go on to the next multi-index is to count up**, from the last one back to the first. -/
theorem successor_digits {shape : List Int64} (pos : ∀ d ∈ shape, 1 ≤ d.toInt) {k : Nat}
    (h : k < size shape) :
    successor shape (digits shape k) =
      if k + 1 = size shape then (true, digits shape 0) else (false, digits shape (k + 1)) := by
  induction shape generalizing k with
  | nil =>
    obtain rfl : k = 0 := Nat.lt_one_iff.1 h
    rfl
  | cons d ds ih =>
    have pos' : ∀ x ∈ ds, 1 ≤ x.toInt := fun x hx => pos x (List.mem_cons_of_mem d hx)
    have rows := size_pos pos'
    have lt := Nat.mod_lt k rows
    have row := Nat.div_add_mod k (size ds)
    have hd : (d.toInt.toNat : Int) = d.toInt :=
      Int.toNat_of_nonneg (Int.le_trans Int.one_nonneg (pos d List.mem_cons_self))
    have first : digits (d :: ds) 0 = 0 :: digits ds 0 := by
      rw [digits, Nat.zero_div, Nat.zero_mod, Nat.cast_zero]
    rw [digits, successor, ih pos' lt]
    by_cases carry : k % size ds + 1 = size ds
    · -- the row is at its end, and the next one begins, if there is one
      have next : k + 1 = (k / size ds + 1) * size ds + 0 := by
        rw [Nat.add_zero, Nat.add_mul, Nat.one_mul, Nat.mul_comm]
        omega
      rw [if_pos carry]
      by_cases last : k / size ds + 1 = d.toInt.toNat
      · have beyond : ¬ ((k / size ds : Nat) : Int) + 1 < d.toInt := by omega
        have whole : k + 1 = size (d :: ds) := by rw [next, last, size, Nat.add_zero]
        simp only [if_neg beyond, if_pos whole, first]
      · have below : k / size ds < d.toInt.toNat := Nat.div_lt_of_lt_mul (Nat.mul_comm _ _ ▸ h)
        have inside : ((k / size ds : Nat) : Int) + 1 < d.toInt := by omega
        have more : k + 1 ≠ size (d :: ds) := by
          rw [next, size, Nat.add_zero]
          exact fun same => last (Nat.eq_of_mul_eq_mul_right rows same)
        simp only [if_pos inside, if_neg more]
        rw [next, digits_row d _ rows, Nat.cast_add, Nat.cast_one]
    · -- the next multi-index is in the same row
      have next : k + 1 = (k / size ds) * size ds + (k % size ds + 1) := by
        rw [Nat.mul_comm]
        omega
      have more : k + 1 ≠ size (d :: ds) := fun whole => by
        have dvd : size ds ∣ k + 1 := ⟨d.toInt.toNat, by rw [whole, size, Nat.mul_comm]⟩
        have zero := Nat.mod_eq_zero_of_dvd dvd
        rw [next, Nat.mul_comm, Nat.mul_add_mod, Nat.mod_eq_of_lt (by omega)] at zero
        omega
      rw [if_neg carry, if_neg more, next, digits_row d _ (by omega)]

/-! ## Offsets -/

theorem walk_digits {l : Layout} (pos : ∀ d ∈ l.shape, 1 ≤ d.toInt) {n k : Nat}
    (h : k + n ≤ size l.shape) :
    l.walk n (digits l.shape k) =
      (List.range n).map fun i => offset l.strides (digits l.shape (k + i)) := by
  induction n generalizing k with
  | zero => rfl
  | succ n ih =>
    rw [walk, successor_digits pos (by omega), List.range_succ_eq_map, List.map_cons, List.map_map]
    congr 1
    by_cases last : k + 1 = size l.shape
    · obtain rfl : n = 0 := by omega
      rfl
    · rw [if_neg last, ih (by omega)]
      refine List.map_congr_left fun i _ => ?_
      rw [Function.comp_apply, Nat.succ_eq_add_one, Nat.add_assoc, Nat.add_comm 1 i]

/-- **A walk comes by the offsets of all multi-indices in row-major order.** -/
theorem offsets_eq {l : Layout} {n : Nat} (h : countOf l.shape = .ok n) :
    l.offsets = (indices l.shape).map (offset l.strides) := by
  have count : l.count = size l.shape := (count_eq h).trans (size_eq_of_countOf h).symm
  rw [offsets, count, indices_eq, List.map_map]
  by_cases none : size l.shape = 0
  · rw [none]
    rfl
  · have pos := one_le_of_countOf h (size_eq_of_countOf h ▸ none)
    rw [← digits_zero, walk_digits pos (Nat.zero_add _).le]
    refine List.map_congr_left fun k _ => ?_
    rw [Nat.zero_add, Function.comp_apply]

/-- The number of a multi-index in row-major order, which is its offset as long as no stride is
clamped. -/
def number : List Int64 → List Int → Int
  | _ :: ds, i :: is => i * volume ds + number ds is
  | _, _ => 0

/-- Digits are those of their number. -/
theorem number_digits {shape : List Int64} (nonneg : ∀ d ∈ shape, 0 ≤ d.toInt) {k : Nat}
    (h : k < size shape) : number shape (digits shape k) = k := by
  induction shape generalizing k with
  | nil =>
    obtain rfl : k = 0 := Nat.lt_one_iff.1 h
    rfl
  | cons d ds ih =>
    have nonneg' : ∀ x ∈ ds, 0 ≤ x.toInt := fun x hx => nonneg x (List.mem_cons_of_mem d hx)
    have rows : 0 < size ds := Nat.pos_of_ne_zero (right_ne_zero_of_mul (Nat.ne_zero_of_lt h))
    have row := Nat.div_add_mod k (size ds)
    rw [digits, number, ih nonneg' (Nat.mod_lt k rows), ← cast_size nonneg', Int.mul_comm]
    exact_mod_cast row

/-- **A clamped stride addresses nothing else than an exact one.** It is only met at index zero. -/
theorem offset_rowMajor {shape : List Int64} {index : List Int} (h : IsIndex shape index)
    (bound : volume shape < 2 ^ 64) :
    offset (rowMajorStrides shape) index = number shape index := by
  induction h with
  | nil => rfl
  | @cons d i ds is hi his ih =>
    obtain ⟨nonneg, below⟩ := hi
    have pos := IsIndex.one_le his
    have rows := one_le_volume pos
    rw [volume] at bound
    rw [rowMajorStrides, offset, number, ih (by nlinarith), toInt_clampedProduct pos]
    rcases le_or_gt (volume ds) (2 ^ 63 - 1) with fits | clamped
    · rw [min_eq_left fits]
    · have one : d.toInt = 1 := by
        by_contra many
        have two : 2 ≤ d.toInt := by omega
        have double : 2 * volume ds ≤ d.toInt * volume ds :=
          mul_le_mul_of_nonneg_right two (by omega)
        omega
      obtain rfl : i = 0 := by omega
      rw [Int.zero_mul, Int.zero_mul]

/-- The offset of a multi-index is its number. -/
theorem offset_rowMajor_digits {shape : List Int64} {n k : Nat} (count : countOf shape = .ok n)
    (below : k < n) : offset (rowMajorStrides shape) (digits shape k) = k := by
  obtain ⟨-, -, nonneg⟩ := countOf_eq_ok count
  have below' : k < size shape := size_eq_of_countOf count ▸ below
  rw [offset_rowMajor (isIndex_digits below') (volume_lt_of_countOf count),
    number_digits nonneg below']

/-- **The row-major layout counts its elements.** -/
theorem rowMajor_offsets {shape : List Int64} {n : Nat} (h : countOf shape = .ok n) :
    (List.range n).map Int.ofNat = (indices shape).map (offset (rowMajorStrides shape)) := by
  rw [indices_eq, List.map_map, size_eq_of_countOf h]
  refine List.map_congr_left fun k hk => ?_
  exact (offset_rowMajor_digits h (List.mem_range.1 hk)).symm

/-! ## The ends of the span -/

/-- Some index of a dimension is as far from the start as the dimension reaches. -/
theorem exists_mul_eq_reach {d : Int} (pos : 1 ≤ d) (s : Int) :
    (∃ i, (0 ≤ i ∧ i < d) ∧ i * s = min 0 ((d - 1) * s)) ∧
      ∃ i, (0 ≤ i ∧ i < d) ∧ i * s = max 0 ((d - 1) * s) := by
  rcases le_total 0 ((d - 1) * s) with forwards | backwards
  · rw [min_eq_left forwards, max_eq_right forwards]
    exact ⟨⟨0, by omega, zero_mul s⟩, ⟨d - 1, by omega, rfl⟩⟩
  · rw [min_eq_right backwards, max_eq_left backwards]
    exact ⟨⟨d - 1, by omega, rfl⟩, ⟨0, by omega, zero_mul s⟩⟩

/-- Both ends of the span are offsets of multi-indices. -/
theorem exists_offset_eq_ends {shape strides : List Int64}
    (length : shape.length = strides.length) (pos : ∀ d ∈ shape, 1 ≤ d.toInt) :
    (∃ index ∈ indices shape, offset strides index = lowest (shape.zip strides)) ∧
      ∃ index ∈ indices shape, offset strides index = highest (shape.zip strides) := by
  simp only [mem_indices]
  induction shape generalizing strides with
  | nil =>
    obtain rfl := List.eq_nil_of_length_eq_zero length.symm
    exact ⟨⟨[], .nil, rfl⟩, ⟨[], .nil, rfl⟩⟩
  | cons d ds ih =>
    cases strides with
    | nil => cases length
    | cons s ss =>
      obtain ⟨⟨first, hfirst, low⟩, ⟨last, hlast, high⟩⟩ := ih (Nat.succ.inj length) fun x hx =>
        pos x (List.mem_cons_of_mem d hx)
      obtain ⟨⟨i, hi, least⟩, ⟨j, hj, greatest⟩⟩ :=
        exists_mul_eq_reach (pos d List.mem_cons_self) s.toInt
      exact ⟨⟨i :: first, .cons hi hfirst, by rw [offset, least, low, List.zip_cons_cons, lowest]⟩,
        ⟨j :: last, .cons hj hlast, by rw [offset, greatest, high, List.zip_cons_cons, highest]⟩⟩

theorem lowest_nonpos (dims : List (Int64 × Int64)) : lowest dims ≤ 0 := by
  induction dims with
  | nil => exact le_rfl
  | cons dim rest ih =>
    have hmin := min_le_left 0 ((dim.1.toInt - 1) * dim.2.toInt)
    rw [lowest]
    omega

theorem isSignedWord_iff {x : Int} : isSignedWord x ↔ -2 ^ 63 ≤ x ∧ x < 2 ^ 63 := by
  rw [isSignedWord, Int64.toInt_minValue, Int64.toInt_maxValue, Bool.and_eq_true,
    decide_eq_true_eq, decide_eq_true_eq]
  omega

/-- **A span is refused only if its ends are no words.** On the way both ends only move away from
zero, and a reach is not farther from it than the end that it moves. -/
theorem spanFrom_eq_ite {acc : Span} {dims : List (Int64 × Int64)} (low : acc.low ≤ 0)
    (high : 0 ≤ acc.high) (lowWord : -2 ^ 63 ≤ acc.low) (highWord : acc.high < 2 ^ 63) :
    spanFrom acc dims =
      if -2 ^ 63 ≤ acc.low + lowest dims ∧ acc.high + highest dims < 2 ^ 63 then
        some ⟨acc.low + lowest dims, acc.high + highest dims⟩
      else none := by
  induction dims generalizing acc with
  | nil =>
    simp only [lowest, highest, Int.add_zero]
    exact (if_pos ⟨lowWord, highWord⟩).symm
  | cons dim rest ih =>
    obtain ⟨dim, stride⟩ := dim
    have lowRest := lowest_nonpos rest
    have highRest := highest_nonneg rest
    rw [lowest, highest]
    by_cases backwards : (dim.toInt - 1) * stride.toInt < 0
    · rw [min_eq_right backwards.le, max_eq_left backwards.le, Int.zero_add, ← Int.add_assoc]
      simp only [spanFrom, if_pos backwards, Bool.and_eq_true, isSignedWord_iff]
      by_cases word : -2 ^ 63 ≤ acc.low + (dim.toInt - 1) * stride.toInt
      · rw [if_pos (by omega)]
        exact @ih ⟨acc.low + (dim.toInt - 1) * stride.toInt, acc.high⟩ (by simp only; omega) high
          word highWord
      · rw [if_neg (by omega), if_neg (by omega)]
    · have forwards := Int.not_lt.1 backwards
      rw [min_eq_left forwards, max_eq_right forwards, Int.zero_add, ← Int.add_assoc]
      simp only [spanFrom, if_neg backwards, Bool.and_eq_true, isSignedWord_iff]
      by_cases word : acc.high + (dim.toInt - 1) * stride.toInt < 2 ^ 63
      · rw [if_pos (by omega)]
        exact @ih ⟨acc.low, acc.high + (dim.toInt - 1) * stride.toInt⟩ low (by simp only; omega)
          lowWord word
      · rw [if_neg (by omega), if_neg (by omega)]

/-- A layout with elements has the span of its least and its greatest offset, if these are words. -/
theorem span_eq_ite {l : Layout} {n : Nat} (length : l.shape.length = l.strides.length)
    (count : countOf l.shape = .ok n) (filled : n ≠ 0) :
    l.span =
      if -2 ^ 63 ≤ lowest (l.shape.zip l.strides) ∧ highest (l.shape.zip l.strides) < 2 ^ 63 then
        .ok (some ⟨lowest (l.shape.zip l.strides), highest (l.shape.zip l.strides)⟩)
      else .error (.spanOverflow l.shape l.strides) := by
  obtain ⟨n, rfl⟩ := Nat.exists_eq_succ_of_ne_zero filled
  have spanned := @spanFrom_eq_ite ⟨0, 0⟩ (l.shape.zip l.strides) le_rfl le_rfl (by decide)
    (by decide)
  simp only [Int.zero_add] at spanned
  rw [span, if_neg (not_not.2 length), count]
  simp only [spanned]
  split_ifs <;> rfl

end SharedTensor.Layout
