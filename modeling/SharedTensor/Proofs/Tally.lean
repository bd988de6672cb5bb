import SharedTensor.Table

/-!
# Counting rows

The sum of the sizes of all rows of a table (`Table.total`), and how it moves when a row comes
(`total_add`), changes (`total_update`) or goes (`total_erase`). How many rows satisfy a condition
(`Table.tally`) is the sum of as many ones (`tally_eq_total`), so it moves the same way.
-/

namespace SharedTensor.Table

variable {α : Type}

@[simp] theorem next_add (t : Table α) (row : α) : (t.add row).next = t.next + 1 := by
  simp [next, add]

@[simp] theorem next_update (t : Table α) (i : Nat) (f : α → α) : (t.update i f).next = t.next := by
  simp [next, update]

@[simp] theorem next_erase (t : Table α) (i : Nat) : (t.erase i).next = t.next := by
  simp [next, erase]

@[simp] theorem get?_empty (i : Nat) : ({} : Table α).get? i = none := by
  simp [get?]

@[simp] theorem get?_next (t : Table α) : t.get? t.next = none := by
  simp [get?, next]

/-- Only what a change makes of the row matters. -/
theorem update_congr {t : Table α} {i : Nat} {row : α} {f g : α → α} (h : t.get? i = some row)
    (same : f row = g row) : t.update i f = t.update i g := by
  unfold update
  rw [get?, Option.join_eq_some_iff] at h
  congr 1
  apply List.ext_getElem?
  intro j
  rw [List.getElem?_modify, List.getElem?_modify]
  by_cases hj : i = j
  · subst hj
    simp [h, same]
  · simp [hj]

/-! ## Sums -/

/-- The sum of the sizes of all rows. -/
def total (t : Table α) (size : α → Nat) : Nat :=
  t.rows.foldr (fun row sum => row.elim 0 size + sum) 0

@[simp] theorem total_add (t : Table α) (row : α) (size : α → Nat) :
    (t.add row).total size = t.total size + size row := by
  obtain ⟨rows⟩ := t
  simp only [total, add]
  induction rows with
  | nil => simp
  | cons r rest ih =>
    rw [List.cons_append, List.foldr_cons, List.foldr_cons, ih, Nat.add_assoc]

/-- A row that goes no longer adds to the sum. -/
theorem total_erase {t : Table α} {i : Nat} {row : α} (h : t.get? i = some row) (size : α → Nat) :
    (t.erase i).total size + size row = t.total size := by
  obtain ⟨rows⟩ := t
  simp only [total, erase, get?] at h ⊢
  induction rows generalizing i with
  | nil => simp at h
  | cons r rest ih =>
    cases i with
    | zero =>
      obtain rfl : r = some row := by simpa using h
      simp [Nat.add_comm]
    | succ i =>
      have step := ih (i := i) (by simpa using h)
      rw [List.set_cons_succ, List.foldr_cons, List.foldr_cons, ← step, Nat.add_assoc]

theorem le_total {t : Table α} {i : Nat} {row : α} (h : t.get? i = some row) (size : α → Nat) :
    size row ≤ t.total size :=
  total_erase h size ▸ Nat.le_add_left _ _

/-- A change of a row that keeps its size keeps the sum. -/
theorem total_update {t : Table α} {i : Nat} {f : α → α} {size : α → Nat}
    (h : ∀ row, t.get? i = some row → size (f row) = size row) :
    (t.update i f).total size = t.total size := by
  obtain ⟨rows⟩ := t
  simp only [total, update, get?] at h ⊢
  induction rows generalizing i with
  | nil => simp
  | cons r rest ih =>
    cases i with
    | zero =>
      cases r with
      | none => simp
      | some r => simp [h r (by simp)]
    | succ i =>
      rw [List.modify_succ_cons, List.foldr_cons, List.foldr_cons,
        ih fun row hrow => h row (by simpa using hrow)]

/-- Where there are no rows, there is nothing to add up. -/
theorem total_eq_zero {t : Table α} (h : ∀ i, t.get? i = none) (size : α → Nat) :
    t.total size = 0 := by
  obtain ⟨rows⟩ := t
  simp only [total, get?] at h ⊢
  induction rows with
  | nil => rfl
  | cons r rest ih =>
    obtain rfl : r = none := by simpa using h 0
    rw [List.foldr_cons, ih fun i => by simpa using h (i + 1)]
    rfl

/-! ## Counts -/

/-- How many rows satisfy a condition. -/
def tally (t : Table α) (p : α → Bool) : Nat :=
  t.rows.countP fun row => row.any p

/-- To count is to add up ones. -/
theorem tally_eq_total (t : Table α) (p : α → Bool) :
    t.tally p = t.total fun row => if p row then 1 else 0 := by
  obtain ⟨rows⟩ := t
  simp only [tally, total]
  induction rows with
  | nil => rfl
  | cons r rest ih =>
    rw [List.countP_cons, List.foldr_cons, ih, Nat.add_comm]
    cases r <;> rfl

@[simp] theorem tally_empty (p : α → Bool) : ({} : Table α).tally p = 0 := rfl

@[simp] theorem tally_add (t : Table α) (row : α) (p : α → Bool) :
    (t.add row).tally p = t.tally p + if p row then 1 else 0 := by
  simp only [tally_eq_total, total_add]

/-- A row that goes is no longer counted. -/
theorem tally_erase {t : Table α} {i : Nat} {row : α} (h : t.get? i = some row) (p : α → Bool) :
    (t.erase i).tally p + (if p row then 1 else 0) = t.tally p := by
  rw [tally_eq_total, tally_eq_total, ← total_erase h]

/-- A change of a row that the condition does not see leaves the number alone. -/
theorem tally_update {t : Table α} {i : Nat} {f : α → α} {p : α → Bool}
    (h : ∀ row, t.get? i = some row → p (f row) = p row) : (t.update i f).tally p = t.tally p := by
  rw [tally_eq_total, tally_eq_total]
  exact total_update fun row found => by rw [h row found]

theorem tally_pos_iff {t : Table α} {p : α → Bool} :
    0 < t.tally p ↔ ∃ i row, t.get? i = some row ∧ p row := by
  simp only [tally, List.countP_pos_iff, List.mem_iff_getElem?, get?, Option.join_eq_some_iff]
  constructor
  · rintro ⟨r, ⟨i, hi⟩, hr⟩
    cases r with
    | none => simp at hr
    | some row => exact ⟨i, row, hi, by simpa using hr⟩
  · rintro ⟨i, row, hi, hp⟩
    exact ⟨some row, ⟨i, hi⟩, by simpa using hp⟩

end SharedTensor.Table
