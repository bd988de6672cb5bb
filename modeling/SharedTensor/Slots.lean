/-!
# Named slots

Values under names, in the order of the names. A name holds at most one value: what `set` stores is
what `get?` finds, and other names are not affected (`get?_set`, `get?_erase`).
-/

namespace SharedTensor

/-- Values under names. -/
structure Slots (α : Type) where
  entries : List (String × α) := []
  deriving Inhabited

namespace Slots

variable {α : Type}

/-- The entries after `value` has been stored under `name`. -/
def insertEntry (name : String) (value : α) : List (String × α) → List (String × α)
  | [] => [(name, value)]
  | (n, v) :: rest =>
    if name = n then (name, value) :: rest
    else if name < n then (name, value) :: (n, v) :: rest
    else (n, v) :: insertEntry name value rest

/-- Stores a value under a name, in the place of what was there. -/
def set (s : Slots α) (name : String) (value : α) : Slots α :=
  ⟨insertEntry name value s.entries⟩

/-- The value of the first entry with the given name. -/
def valueOf? (name : String) : List (String × α) → Option α
  | [] => none
  | (n, v) :: rest => if name = n then some v else valueOf? name rest

/-- The value under a name. -/
def get? (s : Slots α) (name : String) : Option α :=
  valueOf? name s.entries

/-- Removes the value under a name. -/
def erase (s : Slots α) (name : String) : Slots α :=
  ⟨s.entries.filter fun e => e.1 ≠ name⟩

/-- The values in the order of their names. -/
def values (s : Slots α) : List α :=
  s.entries.map (·.2)

/-- The names whose values satisfy a condition, in order. -/
def namesWhere (s : Slots α) (p : α → Bool) : List String :=
  (s.entries.filter fun e => p e.2).map (·.1)

theorem valueOf?_insertEntry (entries : List (String × α)) (name other : String) (value : α) :
    valueOf? other (insertEntry name value entries) =
      if other = name then some value else valueOf? other entries := by
  induction entries with
  | nil => simp [insertEntry, valueOf?]
  | cons e rest ih =>
    obtain ⟨n, v⟩ := e
    unfold insertEntry
    by_cases hn : name = n
    · subst hn
      by_cases h : other = name <;> simp [valueOf?, h]
    · by_cases hlt : name < n
      · simp [hn, hlt, valueOf?]
      · by_cases ho : other = name
        · subst ho
          simp [hn, hlt, valueOf?, ih]
        · simp [hn, hlt, valueOf?, ih, ho]

theorem valueOf?_filter (entries : List (String × α)) (name other : String) :
    valueOf? other (entries.filter fun e => e.1 ≠ name) =
      if other = name then none else valueOf? other entries := by
  induction entries with
  | nil => simp [valueOf?]
  | cons e rest ih =>
    obtain ⟨n, v⟩ := e
    by_cases hn : n = name
    · subst hn
      by_cases h : other = n <;> simp_all [valueOf?]
    · by_cases ho : other = name
      · subst ho
        simp_all [valueOf?, Ne.symm hn]
      · simp_all [valueOf?]

@[simp] theorem get?_set (s : Slots α) (name other : String) (value : α) :
    (s.set name value).get? other = if other = name then some value else s.get? other :=
  valueOf?_insertEntry s.entries name other value

@[simp] theorem get?_erase (s : Slots α) (name other : String) :
    (s.erase name).get? other = if other = name then none else s.get? other :=
  valueOf?_filter s.entries name other

end Slots

end SharedTensor
