import Mathlib.Data.Multiset.Filter
import Mathlib.Data.Multiset.Range
import SharedTensor.Proofs.Client.Storage

/-!
# The count of a storage, place by place

An export that has not been deleted is with an owner, behind a bare address, or inside a storage
that was made from it, and in only one of these places (`Balanced.exportsOf_eq`). With this the
balance tells the count of a storage by those who hold it, and a storage is live as long as there
are any (`references_accounted`).
-/

namespace SharedTensor

/-- How many rows satisfy a condition, told from their numbers. -/
theorem Table.tally_eq_countP_range {α : Type} (t : Table α) (p : α → Bool) :
    t.tally p = (Multiset.range t.next).countP fun i => (t.get? i).any p := by
  obtain ⟨rows⟩ := t
  change rows.countP (fun row => row.any p) =
    (List.range rows.length).countP fun i => decide (rows[i]?.join.any p = true)
  induction rows with
  | nil => rfl
  | cons row rest ih =>
    rw [List.countP_cons, ih, List.length_cons, List.range_succ_eq_map, List.countP_cons,
      List.countP_map]
    simp [Function.comp_def]

/-- The record that a storage deletes in the end. -/
def Storage.record? (st : Storage) : Option RecordId :=
  match st.release with
  | .foreign r => some r
  | _ => none

theorem Storage.record?_eq_some_iff {st : Storage} {r : RecordId} :
    st.record? = some r ↔ st.release = .foreign r := by
  unfold record?
  split <;> simp_all

namespace Store

/-- The records inside of storages. -/
def imported (s : Store) : Multiset RecordId :=
  s.storages.rows.filterMap fun row => row.bind Storage.record?

/-- How many records inside of storages hold a reference to a storage. -/
def reimports (s : Store) (id : StorageId) : Nat :=
  s.storages.tally fun st => (st.record?.bind s.exportedFrom?) = some id

theorem count_imported (s : Store) (r : RecordId) :
    s.imported.count r = s.releasing (.foreign r) := by
  unfold imported releasing Table.tally
  rw [Multiset.coe_count, List.count, List.countP_filterMap]
  refine List.countP_congr fun row _ => ?_
  cases row with
  | none => simp
  | some st =>
    rw [Option.any_some, decide_eq_true_eq, ← Storage.record?_eq_some_iff]
    cases hr : st.record? <;> simp [hr]

theorem countP_imported (s : Store) (id : StorageId) :
    s.imported.countP (fun r => s.exportedFrom? r = some id) = s.reimports id := by
  unfold imported reimports Table.tally
  rw [Multiset.coe_countP, List.countP_filterMap]
  refine List.countP_congr fun row _ => ?_
  cases row with
  | none => simp
  | some st => cases hr : st.record? <;> simp [hr]

end Store

namespace Client

variable {c : Client}

/-- The records that are in some place. -/
def placedRecords (c : Client) : Multiset RecordId :=
  c.managed + c.raw + c.store.imported

theorem count_placedRecords (c : Client) (r : RecordId) : c.placedRecords.count r = c.places r := by
  simp only [placedRecords, places, Multiset.count_add, Store.count_imported]

/-- How many exports of a storage are waiting to be deleted: with an owner, behind a bare address,
and inside of a storage. -/
def exportsHeld (c : Client) (id : StorageId) : Nat :=
  c.managed.countP (fun r => c.store.exportedFrom? r = some id) +
    c.raw.countP (fun r => c.store.exportedFrom? r = some id) + c.store.reimports id

/-- The exports of a storage are those that are in some place, each counted once. -/
theorem Balanced.exportsOf_eq (h : Balanced c) (id : StorageId) :
    c.store.exportsOf id = c.exportsHeld id := by
  have nodup : c.placedRecords.Nodup := Multiset.nodup_iff_count_le_one.2 fun r => by
    rw [count_placedRecords]
    exact h.places_le r
  -- an export of the storage is in some place, because it can be deleted
  have same : (Multiset.range c.store.records.next).filter
        (fun r => c.store.exportedFrom? r = some id) =
      c.placedRecords.filter fun r => c.store.exportedFrom? r = some id := by
    refine (Multiset.Nodup.ext ((Multiset.nodup_range _).filter _) (nodup.filter _)).2 fun r => ?_
    rw [Multiset.mem_filter, Multiset.mem_filter]
    refine and_congr_left fun hr => ?_
    obtain ⟨record, hrecord, hexporter⟩ := Option.bind_eq_some_iff.1 hr
    have pos := h.places_pos r record hrecord (Record.hasDeleter_of_exporter? hexporter)
    rw [← count_placedRecords, Multiset.count_pos] at pos
    exact iff_of_true (Multiset.mem_range.2 (Table.lt_next_of_get? hrecord)) pos
  calc c.store.exportsOf id
      = (Multiset.range c.store.records.next).countP
          fun r => c.store.exportedFrom? r = some id := by
        rw [Store.exportsOf, Table.tally_eq_countP_range]
        refine Multiset.countP_congr rfl fun r _ => ?_
        unfold Store.exportedFrom?
        cases c.store.records.get? r <;> simp
    _ = c.placedRecords.countP fun r => c.store.exportedFrom? r = some id := by
        rw [Multiset.countP_eq_card_filter, Multiset.countP_eq_card_filter, same]
    _ = c.exportsHeld id := by
        rw [placedRecords, Multiset.countP_add, Multiset.countP_add, Store.countP_imported]
        rfl

/-- **The count of a storage is the number of its handles, its views, its exports and its raw
references, and it is live as long as there are any.** -/
theorem references_accounted (moves : List Move) (id : StorageId) :
    let c := run {} moves
    let count := c.handles.count ⟨some id⟩ + c.store.releasing (.view id) + c.exportsHeld id +
      c.references.count id
    c.store.references ⟨some id⟩ = count ∧
      ((∃ st, c.store.storages.get? id = some st) ↔ 1 ≤ count) := by
  intro c count
  have balanced : Balanced c := balanced_run balanced_empty moves
  have heq : c.store.references ⟨some id⟩ = count := by
    rw [balanced.references_eq, holders, balanced.exportsOf_eq]
  refine ⟨heq, ?_⟩
  rw [← heq]
  constructor
  · rintro ⟨st, live⟩
    rw [Store.references_of_get? live]
    exact balanced.references_pos id st live
  · intro pos
    rw [balanced.references_eq] at pos
    exact balanced.live pos

end Client

end SharedTensor
