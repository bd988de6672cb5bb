import Mathlib.Data.Multiset.AddSub
import Mathlib.Data.String.Basic
import SharedTensor.Slots

/-!
# What is in the slots

The entries of slots stand in the order of their names, each name once (`Slots.Sorted`). So storing
a value adds it to what is there, in the place of the old value of the slot if there is one
(`coe_values_set_of_none`, `cons_values_set`), and erasing takes just that value away
(`cons_values_erase`).
-/

namespace SharedTensor.Slots

variable {α : Type}

/-- The names stand in order. -/
def Sorted (s : Slots α) : Prop :=
  s.entries.Pairwise fun a b => a.1 < b.1

theorem sorted_empty : ({} : Slots α).Sorted := List.Pairwise.nil

variable {entries : List (String × α)} {name : String} {value old : α}

theorem mem_insertEntry {e : String × α} (h : e ∈ insertEntry name value entries) :
    e = (name, value) ∨ e ∈ entries := by
  induction entries with
  | nil => simpa [insertEntry] using h
  | cons e' rest ih =>
    rw [insertEntry] at h
    split at h
    · rcases List.mem_cons.1 h with rfl | hrest
      · exact .inl rfl
      · exact .inr (List.mem_cons_of_mem _ hrest)
    · split at h
      · exact List.mem_cons.1 h
      · rcases List.mem_cons.1 h with rfl | hrest
        · exact .inr List.mem_cons_self
        · rcases ih hrest with heq | hmem
          · exact .inl heq
          · exact .inr (List.mem_cons_of_mem _ hmem)

theorem pairwise_insertEntry (h : entries.Pairwise fun a b => a.1 < b.1) :
    (insertEntry name value entries).Pairwise fun a b => a.1 < b.1 := by
  induction entries with
  | nil => exact List.pairwise_singleton _ _
  | cons e rest ih =>
    obtain ⟨n, v⟩ := e
    obtain ⟨hfirst, hrest⟩ := List.pairwise_cons.1 h
    rw [insertEntry]
    split
    · next heq =>
      subst heq
      exact List.pairwise_cons.2 ⟨hfirst, hrest⟩
    · next hne =>
      split
      · next hlt =>
        refine List.pairwise_cons.2 ⟨fun e he => ?_, h⟩
        rcases List.mem_cons.1 he with rfl | he
        · exact hlt
        · exact lt_trans hlt (hfirst e he)
      · next hle =>
        refine List.pairwise_cons.2 ⟨fun e he => ?_, ih hrest⟩
        rcases mem_insertEntry he with rfl | he
        · exact lt_of_le_of_ne (not_lt.1 hle) (Ne.symm hne)
        · exact hfirst e he

theorem Sorted.set {s : Slots α} (h : s.Sorted) (name : String) (value : α) :
    (s.set name value).Sorted :=
  pairwise_insertEntry h

theorem Sorted.erase {s : Slots α} (h : s.Sorted) (name : String) : (s.erase name).Sorted :=
  List.Pairwise.filter _ h

/-- What stands behind a name that comes before all others is not found. -/
theorem valueOf?_of_lt (h : ∀ e ∈ entries, name < e.1) : valueOf? name entries = none := by
  induction entries with
  | nil => rfl
  | cons e rest ih =>
    have hne : name ≠ e.1 := (h e List.mem_cons_self).ne
    rw [valueOf?, if_neg hne]
    exact ih fun e he => h e (List.mem_cons_of_mem _ he)

theorem map_insertEntry_of_none (h : valueOf? name entries = none) :
    (((insertEntry name value entries).map (·.2) : List α) : Multiset α) =
      value ::ₘ (entries.map (·.2) : List α) := by
  induction entries with
  | nil => rfl
  | cons e rest ih =>
    obtain ⟨n, v⟩ := e
    rw [valueOf?] at h
    split at h
    · cases h
    · next hne =>
      rw [insertEntry, if_neg hne]
      split
      · rfl
      · rw [List.map_cons, List.map_cons, ← Multiset.cons_coe, ih h, Multiset.cons_swap]
        rfl

theorem map_insertEntry_of_some (h : valueOf? name entries = some old)
    (sorted : entries.Pairwise fun a b => a.1 < b.1) :
    old ::ₘ (((insertEntry name value entries).map (·.2) : List α) : Multiset α) =
      value ::ₘ (entries.map (·.2) : List α) := by
  induction entries with
  | nil => cases h
  | cons e rest ih =>
    obtain ⟨n, v⟩ := e
    obtain ⟨hfirst, hrest⟩ := List.pairwise_cons.1 sorted
    rw [valueOf?] at h
    rw [insertEntry]
    split at h
    · next heq =>
      obtain rfl : v = old := Option.some.inj h
      rw [if_pos heq, List.map_cons, List.map_cons, ← Multiset.cons_coe, ← Multiset.cons_coe,
        Multiset.cons_swap]
    · next hne =>
      rw [if_neg hne]
      split
      · next hlt =>
        -- a name before the first one is not there
        rw [valueOf?_of_lt fun e he => lt_trans hlt (hfirst e he)] at h
        cases h
      · rw [List.map_cons, List.map_cons, ← Multiset.cons_coe, Multiset.cons_swap, ih h hrest,
          Multiset.cons_swap]
        rfl

theorem map_filter_of_some (h : valueOf? name entries = some old)
    (sorted : entries.Pairwise fun a b => a.1 < b.1) :
    old ::ₘ (((entries.filter fun e => e.1 ≠ name).map (·.2) : List α) : Multiset α) =
      (entries.map (·.2) : List α) := by
  induction entries with
  | nil => cases h
  | cons e rest ih =>
    obtain ⟨n, v⟩ := e
    obtain ⟨hfirst, hrest⟩ := List.pairwise_cons.1 sorted
    rw [valueOf?] at h
    split at h
    · next heq =>
      subst heq
      obtain rfl : v = old := Option.some.inj h
      have others : rest.filter (fun e => e.1 ≠ name) = rest :=
        List.filter_eq_self.2 fun e he => decide_eq_true (hfirst e he).ne'
      rw [List.filter_cons_of_neg (by simp), others]
      rfl
    · next hne =>
      have kept : decide ((n, v).1 ≠ name) = true := decide_eq_true (Ne.symm hne)
      rw [List.filter_cons, if_pos kept, List.map_cons, List.map_cons, ← Multiset.cons_coe,
        Multiset.cons_swap, ih h hrest]
      rfl

variable {s : Slots α}

theorem coe_values_set_of_none (h : s.get? name = none) :
    ((s.set name value).values : Multiset α) = value ::ₘ s.values :=
  map_insertEntry_of_none h

theorem cons_values_set (sorted : s.Sorted) (h : s.get? name = some old) :
    old ::ₘ ((s.set name value).values : Multiset α) = value ::ₘ s.values :=
  map_insertEntry_of_some h sorted

theorem cons_values_erase (sorted : s.Sorted) (h : s.get? name = some old) :
    old ::ₘ ((s.erase name).values : Multiset α) = s.values :=
  map_filter_of_some h sorted

theorem coe_values_erase [DecidableEq α] (sorted : s.Sorted) (h : s.get? name = some old) :
    ((s.erase name).values : Multiset α) = (s.values : Multiset α).erase old := by
  rw [← cons_values_erase sorted h, Multiset.erase_cons_head]

theorem mem_values_of_get? (sorted : s.Sorted) (h : s.get? name = some old) :
    old ∈ (s.values : Multiset α) := by
  rw [← cons_values_erase sorted h]
  exact Multiset.mem_cons_self _ _

end SharedTensor.Slots
