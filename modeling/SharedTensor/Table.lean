/-!
# Tables with fresh numbers

A table hands out a number for each row that it takes in, one after the other, and never hands out
a number again, also when the row is gone.
-/

namespace SharedTensor

/-- Rows under numbers; the place of a row that is gone stays empty. -/
structure Table (α : Type) where
  rows : List (Option α) := []
  deriving Inhabited

namespace Table

variable {α : Type}

/-- The row under a number. -/
def get? (t : Table α) (i : Nat) : Option α :=
  t.rows[i]?.join

/-- The number that the next row gets. -/
def next (t : Table α) : Nat :=
  t.rows.length

/-- Takes in a row under the next number. -/
def add (t : Table α) (row : α) : Table α :=
  ⟨t.rows ++ [some row]⟩

/-- Changes the row under a number, if there is one. -/
def update (t : Table α) (i : Nat) (f : α → α) : Table α :=
  ⟨t.rows.modify i (Option.map f)⟩

/-- Removes the row under a number. -/
def erase (t : Table α) (i : Nat) : Table α :=
  ⟨t.rows.set i none⟩

/-- The rows in the order of their numbers. -/
def values (t : Table α) : List α :=
  t.rows.filterMap id

/-- How many rows there are. -/
def size (t : Table α) : Nat :=
  t.values.length

theorem lt_next_of_get? {t : Table α} {i : Nat} {row : α} (h : t.get? i = some row) :
    i < t.next := by
  rcases Nat.lt_or_ge i t.rows.length with hi | hi
  · exact hi
  · simp [get?, List.getElem?_eq_none hi] at h

@[simp] theorem get?_add (t : Table α) (row : α) (i : Nat) :
    (t.add row).get? i = if i = t.next then some row else t.get? i := by
  unfold get? add next
  by_cases h : i = t.rows.length
  · simp [h]
  · rcases Nat.lt_or_ge i t.rows.length with hi | hi
    · simp [h, List.getElem?_append_left hi]
    · have h₂ : (t.rows ++ [some row])[i]? = none :=
        List.getElem?_eq_none (by simp; omega)
      simp [h, h₂, List.getElem?_eq_none hi]

@[simp] theorem get?_update (t : Table α) (i j : Nat) (f : α → α) :
    (t.update i f).get? j = if j = i then (t.get? j).map f else t.get? j := by
  unfold get? update
  by_cases h : j = i
  · subst h
    cases hr : t.rows[j]? with
    | none => simp [hr]
    | some r => cases r <;> simp [hr]
  · simp [h, Ne.symm h]

@[simp] theorem get?_erase (t : Table α) (i j : Nat) :
    (t.erase i).get? j = if j = i then none else t.get? j := by
  unfold get? erase
  by_cases h : j = i
  · subst h
    by_cases hj : j < t.rows.length <;> simp [hj]
  · simp [h, Ne.symm h]

/-- Removing a row makes the table smaller. -/
theorem size_erase_lt {t : Table α} {i : Nat} {row : α} (h : t.get? i = some row) :
    (t.erase i).size < t.size := by
  have hi : i < t.rows.length := lt_next_of_get? h
  obtain ⟨rows⟩ := t
  simp only [size, values, erase, get?] at *
  induction rows generalizing i with
  | nil => simp at hi
  | cons r rest ih =>
    cases i with
    | zero =>
      cases r with
      | none => simp at h
      | some r => simp
    | succ i =>
      have := ih (by simpa using h) (by simpa using hi)
      cases r <;> simp_all

end Table

end SharedTensor
