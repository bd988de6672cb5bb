import SharedTensor.Proofs.Layout.Span

/-!
# Walks in machine words

A machine walks through a layout with one signed word for each index. It adds up the products of
indices and strides, the first one first, and then moves the last index on; an index that reaches the
end of its dimension goes back to zero and the one before it is moved. The machine does not look
whether a product, a sum or an index still is a word, so here all of them are checked (`wordWalk`).
None of the checks fails if the layout has a span: wherever the sum goes from one index to the next,
there is room for what the indices after it can add or take away (`Room.step`). So the walk in words
comes by the offsets that the walk in unbounded integers comes by (`map_wordOffsets`).
-/

namespace SharedTensor.Layout

/-! ## The walk -/

/-- The sum after one more product. -/
def addProduct (sum : Int64) (term : Int64 × Int64) : Option Int64 :=
  (word? (term.1.toInt * term.2.toInt)).bind fun product => word? (sum.toInt + product.toInt)

/-- The offset of a multi-index. -/
def wordOffset (strides index : List Int64) : Option Int64 :=
  (index.zip strides).foldlM addProduct 0

/-- The next multi-index, and whether all indices went back to zero. -/
def wordSuccessor : List Int64 → List Int64 → Option (Bool × List Int64)
  | d :: ds, i :: is =>
    match wordSuccessor ds is with
    | none => none
    | some (false, is) => some (false, i :: is)
    | some (true, is) =>
      (word? (i.toInt + 1)).map fun i => if i < d then (false, i :: is) else (true, 0 :: is)
  | _, _ => some (true, [])

/-- The offsets of `n` multi-indices, starting from the given one. -/
def wordWalk (l : Layout) : Nat → List Int64 → Option (List Int64)
  | 0, _ => some []
  | n + 1, index =>
    (wordOffset l.strides index).bind fun offset =>
      (wordSuccessor l.shape index).bind fun next => (l.wordWalk n next.2).map (offset :: ·)

/-- The offsets of all elements. -/
def wordOffsets (l : Layout) : Option (List Int64) :=
  l.wordWalk l.count (l.shape.map fun _ => 0)

/-! ## The sum -/

/-- From the sum there is room for whatever the dimensions reach in either direction. -/
structure Room (sum : Int) (dims : List (Int64 × Int64)) : Prop where
  low : -2 ^ 63 ≤ sum + lowest dims
  high : sum + highest dims < 2 ^ 63

variable {sum i : Int} {d s : Int64} {rest dims : List (Int64 × Int64)}

theorem Room.isSignedWord (room : Room sum dims) : isSignedWord sum := by
  have low := lowest_nonpos dims
  have high := highest_nonneg dims
  have roomLow := room.low
  have roomHigh := room.high
  exact isSignedWord_iff.2 ⟨by omega, by omega⟩

/-- **A product leaves room for the dimensions after it.** -/
theorem Room.step (room : Room sum ((d, s) :: rest)) (nonneg : 0 ≤ i) (below : i < d.toInt) :
    Room (sum + i * s.toInt) rest := by
  obtain ⟨backwards, forwards⟩ := mul_mem_reach (s := s.toInt) nonneg below
  obtain ⟨low, high⟩ := room
  rw [lowest] at low
  rw [highest] at high
  exact ⟨by omega, by omega⟩

/-- A layout that has a span and elements has room for its offsets. -/
theorem room_of_span {l : Layout} {ends : Span} (h : l.span = .ok (some ends)) :
    Room 0 (l.shape.zip l.strides) := by
  obtain ⟨-, -, low, high⟩ := span_eq_some h
  obtain ⟨-, -, -, lowWord, highWord⟩ := ends_of_span h
  exact ⟨by omega, by omega⟩

/-- Words add up to the sum that unbounded integers add up to. -/
theorem map_foldlM_addProduct {shape strides index : List Int64} {sum : Int64}
    (isIndex : IsIndex shape (index.map Int64.toInt)) (room : Room 0 (shape.zip strides))
    (roomSum : Room sum.toInt (shape.zip strides)) :
    ((index.zip strides).foldlM addProduct sum).map Int64.toInt =
      some (sum.toInt + offset strides (index.map Int64.toInt)) := by
  induction index generalizing shape strides sum with
  | nil =>
    cases strides <;> exact congrArg some (Int.add_zero _).symm
  | cons i is ih =>
    cases strides with
    | nil => exact congrArg some (Int.add_zero _).symm
    | cons s ss =>
      cases isIndex with
      | @cons d _ ds _ hi his =>
        have next := roomSum.step hi.1 hi.2
        -- the product alone is a word, as there is room for it from zero
        have fromZero := room.step hi.1 hi.2
        rw [Int.zero_add] at fromZero
        obtain ⟨product, exact⟩ := exists_toInt_eq fromZero.isSignedWord
        obtain ⟨sum', exact'⟩ := exists_toInt_eq next.isSignedWord
        have added : addProduct sum (i, s) = some sum' := by
          rw [addProduct, ← exact, word?_toInt, Option.bind_some, exact, ← exact', word?_toInt]
        have empty : Room 0 (ds.zip ss) := by
          have zero := room.step le_rfl (Int.lt_of_le_of_lt hi.1 hi.2)
          rwa [Int.zero_mul, Int.add_zero] at zero
        rw [List.zip_cons_cons, List.foldlM_cons, added, Option.bind_eq_bind, Option.bind_some,
          ih his empty (exact' ▸ next), exact', List.map_cons, offset, Int.add_assoc]

theorem map_wordOffset {shape strides index : List Int64}
    (isIndex : IsIndex shape (index.map Int64.toInt)) (room : Room 0 (shape.zip strides)) :
    (wordOffset strides index).map Int64.toInt =
      some (offset strides (index.map Int64.toInt)) := by
  have sum := @map_foldlM_addProduct _ _ _ 0 isIndex room room
  rwa [Int64.toInt_zero, Int.zero_add] at sum

/-! ## The indices -/

/-- **An index inside its dimension is moved on without a carry**, so words come to the multi-index
that unbounded integers come to. -/
theorem map_wordSuccessor {shape index : List Int64}
    (isIndex : IsIndex shape (index.map Int64.toInt)) :
    (wordSuccessor shape index).map (Prod.map id (List.map Int64.toInt)) =
      some (successor shape (index.map Int64.toInt)) := by
  induction shape generalizing index with
  | nil => rfl
  | cons d ds ih =>
    cases index with
    | nil => cases isIndex
    | cons i is =>
      cases isIndex with
      | cons hi his =>
        have ih := ih his
        have inside := d.toInt_lt
        obtain ⟨i', exact⟩ := exists_toInt_eq (x := i.toInt + 1) (isSignedWord_iff.2 (by omega))
        rw [List.map_cons, successor, wordSuccessor]
        cases next : wordSuccessor ds is with
        | none =>
          rw [next] at ih
          cases ih
        | some found =>
          obtain ⟨carry, is'⟩ := found
          rw [next] at ih
          rw [← Option.some.inj ih]
          cases carry with
          | false => rfl
          | true =>
            simp only [← exact, word?_toInt, Option.map_some, Int64.lt_iff_toInt_lt, Prod.map,
              id_eq]
            split_ifs <;> rfl

/-! ## All multi-indices -/

/-- Words come by the offsets that unbounded integers come by, from any multi-index on. -/
theorem map_wordWalk {l : Layout} (room : Room 0 (l.shape.zip l.strides)) (n : Nat)
    {index : List Int64} (isIndex : IsIndex l.shape (index.map Int64.toInt)) :
    (l.wordWalk n index).map (List.map Int64.toInt) = some (l.walk n (index.map Int64.toInt)) := by
  induction n generalizing index with
  | zero => rfl
  | succ n ih =>
    obtain ⟨offset, summed, same⟩ := Option.map_eq_some_iff.1 (map_wordOffset isIndex room)
    obtain ⟨next, moved, same'⟩ := Option.map_eq_some_iff.1 (map_wordSuccessor isIndex)
    have index' : (successor l.shape (index.map Int64.toInt)).2 = next.2.map Int64.toInt := by
      rw [← same']
      rfl
    have isIndex' : IsIndex l.shape (next.2.map Int64.toInt) := index' ▸ isIndex.successor
    obtain ⟨rest, walked, same''⟩ := Option.map_eq_some_iff.1 (ih isIndex')
    rw [wordWalk, summed, Option.bind_some, moved, Option.bind_some, walked, walk, ← same, index',
      ← same'']
    rfl

/-- **A walk in words comes by the offsets of all elements**, if the layout has a span. -/
theorem map_wordOffsets {l : Layout} {ends : Option Span} (h : l.span = .ok ends) :
    l.wordOffsets.map (List.map Int64.toInt) = some l.offsets := by
  cases ends with
  | none =>
    have count : l.count = 0 := count_eq (span_eq_none h)
    rw [wordOffsets, offsets, count]
    rfl
  | some ends =>
    obtain ⟨-, ⟨n, count, filled⟩, -⟩ := span_eq_some h
    have pos := one_le_of_countOf count filled
    have zero : (l.shape.map fun _ => (0 : Int64)).map Int64.toInt = l.shape.map fun _ => 0 := by
      rw [List.map_map]
      exact List.map_congr_left fun _ _ => Int64.toInt_zero
    have walked := map_wordWalk (room_of_span h) l.count (zero ▸ isIndex_zero pos)
    rwa [zero] at walked

end SharedTensor.Layout
