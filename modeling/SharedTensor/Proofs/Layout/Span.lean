import Mathlib.Order.Bounds.Basic
import SharedTensor.Proofs.Layout.Walk

/-!
# The span in machine words

A machine finds the span of a layout with two signed words that it moves apart, dimension by
dimension: it lowers the dimension by one, multiplies with the stride, adds what it gets to one of
the two words, and gives up where a product or a sum is no word (`wordSpan`). It finds what
unbounded integers find (`map_wordSpan`): a dimension that is not empty is lowered without a carry.
Nor does it give up too early, since no number on the way is farther from zero than the end that it
leads to. So exactly the layouts are refused whose least or greatest offset is no word
(`span_exact`), and the ends of a span that is found are these offsets (`ends_of_span`).
-/

namespace SharedTensor.Layout

/-! ## Words -/

/-- The signed word that is the number, if there is one. -/
def word? (x : Int) : Option Int64 :=
  if isSignedWord x then some (Int64.ofInt x) else none

theorem isSignedWord_toInt (w : Int64) : isSignedWord w.toInt :=
  isSignedWord_iff.2 ⟨w.le_toInt, w.toInt_lt⟩

theorem exists_toInt_eq {x : Int} (h : isSignedWord x) : ∃ w : Int64, w.toInt = x := by
  obtain ⟨least, greatest⟩ := isSignedWord_iff.1 h
  exact ⟨Int64.ofInt x, Int64.toInt_ofInt_of_le least greatest⟩

theorem word?_toInt (w : Int64) : word? w.toInt = some w := by
  rw [word?, if_pos (isSignedWord_toInt w), Int64.ofInt_toInt]

theorem word?_eq_none {x : Int} (h : isSignedWord x = false) : word? x = none := by
  rw [word?, h, if_neg Bool.false_ne_true]

/-- To go on with the word of a number is to go on with the number, if it is a word. -/
theorem bind_word? {α : Type} {x : Int} {f : Int64 → Option α} {g : Int → Option α}
    (same : ∀ w : Int64, f w = g w.toInt) :
    (word? x).bind f = if isSignedWord x then g x else none := by
  cases word : isSignedWord x with
  | false =>
    rw [word?_eq_none word]
    rfl
  | true =>
    obtain ⟨w, rfl⟩ := exists_toInt_eq word
    rw [word?_toInt]
    exact same w

/-- A dimension that is not empty is lowered without a carry. -/
theorem toInt_sub_one {dim : Int64} (pos : 1 ≤ dim.toInt) : (dim - 1).toInt = dim.toInt - 1 := by
  have below := dim.toInt_lt
  rw [Int64.toInt_sub, Int64.toInt_one]
  exact Int.bmod_eq_of_le (by norm_num; omega) (by norm_num; omega)

/-! ## The span in words -/

/-- The two words of the span after one more dimension. Lowering the dimension by one wraps around;
the product and the sum are checked. -/
def widen (ends : Int64 × Int64) (dim : Int64 × Int64) : Option (Int64 × Int64) :=
  match word? ((dim.1 - 1).toInt * dim.2.toInt) with
  | none => none
  | some reach =>
    if reach < 0 then (word? (ends.1.toInt + reach.toInt)).map (·, ends.2)
    else (word? (ends.2.toInt + reach.toInt)).map (ends.1, ·)

/-- The two words of the span after all dimensions. -/
def wordSpan (dims : List (Int64 × Int64)) : Option (Int64 × Int64) :=
  dims.foldlM widen (0, 0)

/-- The span with the given ends. -/
def between (ends : Int64 × Int64) : Span := ⟨ends.1.toInt, ends.2.toInt⟩

/-- **One dimension widens the words as it widens the span.** -/
theorem bind_widen {dim : Int64 × Int64} (pos : 1 ≤ dim.1.toInt) (ends : Int64 × Int64)
    (rest : List (Int64 × Int64)) :
    ((widen ends dim).bind fun ends => spanFrom (between ends) rest) =
      spanFrom (between ends) (dim :: rest) := by
  obtain ⟨dim, stride⟩ := dim
  have lowWord := isSignedWord_toInt ends.1
  have highWord := isSignedWord_toInt ends.2
  simp only [widen, toInt_sub_one pos, spanFrom]
  cases word : isSignedWord ((dim.toInt - 1) * stride.toInt) with
  | false =>
    rw [word?_eq_none word, Bool.false_and, Bool.false_and, if_neg Bool.false_ne_true]
    rfl
  | true =>
    obtain ⟨reach, exact⟩ := exists_toInt_eq word
    simp only [← exact, word?_toInt, Bool.true_and, Int64.lt_iff_toInt_lt, Int64.toInt_zero]
    by_cases backwards : reach.toInt < 0
    · simp only [if_pos backwards, between, highWord, Bool.and_true, Option.bind_map]
      exact bind_word? (g := fun low => spanFrom ⟨low, ends.2.toInt⟩ rest) fun _ => rfl
    · simp only [if_neg backwards, between, lowWord, Bool.true_and, Option.bind_map]
      exact bind_word? (g := fun high => spanFrom ⟨ends.1.toInt, high⟩ rest) fun _ => rfl

/-- **Words find the span that unbounded integers find.** -/
theorem map_wordSpan {dims : List (Int64 × Int64)} (pos : ∀ dim ∈ dims, 1 ≤ dim.1.toInt) :
    (wordSpan dims).map between = spanFrom ⟨0, 0⟩ dims := by
  suffices run : ∀ ends, (dims.foldlM widen ends).map between = spanFrom (between ends) dims by
    exact run (0, 0)
  intro ends
  induction dims generalizing ends with
  | nil => rfl
  | cons dim rest ih =>
    rw [← bind_widen (pos dim List.mem_cons_self), List.foldlM_cons, Option.bind_eq_bind,
      Option.map_bind]
    congr 1
    funext ends
    exact ih (fun dim mem => pos dim (List.mem_cons_of_mem _ mem)) ends

/-! ## The ends -/

/-- The offsets of all multi-indices. -/
def offsetSet (l : Layout) : Set Int :=
  offset l.strides '' {index | IsIndex l.shape index}

theorem not_mem_offsetSet {l : Layout} (none : l.count = 0) (o : Int) : o ∉ l.offsetSet := by
  rintro ⟨index, isIndex, -⟩
  have mem := mem_indices.2 isIndex
  rw [indices_eq, size_eq_of_countOf (count_eq_zero_iff.1 none)] at mem
  cases mem

theorem isLeast_lowest {l : Layout} (length : l.shape.length = l.strides.length)
    (pos : ∀ d ∈ l.shape, 1 ≤ d.toInt) : IsLeast l.offsetSet (lowest (l.shape.zip l.strides)) := by
  obtain ⟨⟨index, mem, attained⟩, -⟩ := exists_offset_eq_ends length pos
  refine ⟨⟨index, mem_indices.1 mem, attained⟩, ?_⟩
  rintro - ⟨index, isIndex, rfl⟩
  exact (offset_mem isIndex).1

theorem isGreatest_highest {l : Layout} (length : l.shape.length = l.strides.length)
    (pos : ∀ d ∈ l.shape, 1 ≤ d.toInt) :
    IsGreatest l.offsetSet (highest (l.shape.zip l.strides)) := by
  obtain ⟨-, index, mem, attained⟩ := exists_offset_eq_ends length pos
  refine ⟨⟨index, mem_indices.1 mem, attained⟩, ?_⟩
  rintro - ⟨index, isIndex, rfl⟩
  exact (offset_mem isIndex).2

/-- The ends of a span are the least and the greatest offset, and they are words. -/
theorem ends_of_span {l : Layout} {ends : Span} (h : l.span = .ok (some ends)) :
    l.count ≠ 0 ∧ IsLeast l.offsetSet ends.low ∧ IsGreatest l.offsetSet ends.high ∧
      -2 ^ 63 ≤ ends.low ∧ ends.high < 2 ^ 63 := by
  obtain ⟨length, ⟨n, counted, filled⟩, low, high⟩ := span_eq_some h
  have pos := one_le_of_countOf counted filled
  rw [span_eq_ite length counted filled, ← low, ← high] at h
  split at h
  · next words =>
    rw [low, high]
    exact ⟨(count_eq counted).trans_ne filled, isLeast_lowest length pos,
      isGreatest_highest length pos, low ▸ words.1, high ▸ words.2⟩
  · cases h

/-- **The span is exact.** A layout with elements has a least and a greatest offset, both of them
offsets of multi-indices. They are its span if they are signed words, and otherwise the shape is
refused. The machine comes to the same answer in words: lowering a dimension never wraps around, and
no product or sum is refused unless one of the two ends is no word. -/
theorem span_exact {l : Layout} {n : Nat} (length : l.shape.length = l.strides.length)
    (count : countOf l.shape = .ok n) (filled : 1 ≤ n) :
    ∃ low high : Int, IsLeast l.offsetSet low ∧ IsGreatest l.offsetSet high ∧
      (l.span = if -2 ^ 63 ≤ low ∧ high ≤ 2 ^ 63 - 1 then .ok (some ⟨low, high⟩)
        else .error (.spanOverflow l.shape l.strides)) ∧
      (Fault.spanOverflow l.shape l.strides).kind = .invalidShape ∧
      (∀ dim ∈ l.shape, (dim - 1).toInt = dim.toInt - 1) ∧
      l.span = match wordSpan (l.shape.zip l.strides) with
        | some (low, high) => .ok (some ⟨low.toInt, high.toInt⟩)
        | none => .error (.spanOverflow l.shape l.strides) := by
  obtain ⟨volume, -, nonneg⟩ := countOf_eq_ok count
  have pos : ∀ d ∈ l.shape, 1 ≤ d.toInt := one_le_of_volume_ne_zero nonneg (by omega)
  have spanned := span_eq_ite length count (Nat.one_le_iff_ne_zero.1 filled)
  refine ⟨_, _, isLeast_lowest length pos, isGreatest_highest length pos, ?_, rfl,
    fun dim mem => toInt_sub_one (pos dim mem), ?_⟩
  · rw [spanned]
    exact if_congr (and_congr_right' Int.le_sub_one_iff.symm) rfl rfl
  · have zipped : ∀ dim ∈ l.shape.zip l.strides, 1 ≤ dim.1.toInt := fun dim mem =>
      pos dim.1 (List.of_mem_zip mem).1
    have words := map_wordSpan zipped
    obtain ⟨n, rfl⟩ := Nat.exists_eq_succ_of_ne_zero (Nat.one_le_iff_ne_zero.1 filled)
    rw [span, if_neg (not_not.2 length), count]
    simp only [← words]
    cases wordSpan (l.shape.zip l.strides) <;> rfl

/-- A layout that reaches from the least word to the greatest, with strides of both signs. -/
theorem span_exact_extremes :
    let l : Layout := ⟨[2, 2], [Int64.minValue, Int64.maxValue]⟩
    (l.shape.length = l.strides.length ∧ countOf l.shape = .ok 4 ∧ 1 ≤ 4) ∧
      l.span = .ok (some ⟨-2 ^ 63, 2 ^ 63 - 1⟩) ∧ IsLeast l.offsetSet (-2 ^ 63) ∧
      IsGreatest l.offsetSet (2 ^ 63 - 1) := by
  intro l
  have hyps : l.shape.length = l.strides.length ∧ countOf l.shape = .ok 4 ∧ 1 ≤ 4 :=
    ⟨rfl, by decide +kernel, by decide⟩
  have spanned : l.span = .ok (some ⟨-2 ^ 63, 2 ^ 63 - 1⟩) := by decide +kernel
  obtain ⟨low, high, least, greatest, exact, -⟩ := span_exact hyps.1 hyps.2.1 hyps.2.2
  rw [spanned] at exact
  split at exact
  · obtain ⟨rfl, rfl⟩ := Span.mk.inj (Option.some.inj (Except.ok.inj exact))
    exact ⟨hyps, spanned, least, greatest⟩
  · cases exact

end SharedTensor.Layout
