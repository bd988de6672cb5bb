import SharedTensor.Store

/-!
# Dropping references

What happens when a reference to a storage goes. While others remain, it is only counted. With the
last one the storage goes as well: it does what its release says, which for a view, and for one of
our own exports taken in again, is to drop a reference to another storage. So a drop follows a path
from storage to storage and stops at the first one that is still referred to.
-/

namespace SharedTensor.Store

/-- Deletes a record, unless its deleter is missing. An exported record drops its reference to a
storage, which is the result; a producer is told. -/
def deleteRecord (s : Store) (r : RecordId) : Store × Option StorageId :=
  match s.records.get? r with
  | none => (s, none)
  | some record =>
    if !record.hasDeleter then (s, none)
    else
      let s := { s with records := s.records.erase r }
      match record.origin with
      | .exported =>
        ({ s with counters := { s.counters with exports := s.counters.exports - 1 } },
          record.context)
      | .produced producer => (s.tell (.deleted r producer), none)

/-- Does what a release says for a storage that is already gone. The result names the storage to
which a reference is dropped in turn. -/
def runRelease (s : Store) (id : StorageId) : Release → Store × Option StorageId
  | .owned block => ({ s with host := s.host.free block }, none)
  | .unowned => (s, none)
  | .view parent => (s, some parent)
  | .foreign record => s.deleteRecord record
  | .external owner => (s.tell (.released id owner), none)

/-- Takes a storage out of the store and does what its release says. -/
def retire (s : Store) (id : StorageId) (st : Storage) : Store × Option StorageId :=
  { s with
    storages := s.storages.erase id
    counters := { s.counters with
      live := s.counters.live - 1
      released := s.counters.released + 1 } }.runRelease id st.release

theorem deleteRecord_storages (s : Store) (r : RecordId) :
    (s.deleteRecord r).1.storages = s.storages := by
  unfold deleteRecord
  repeat' split
  all_goals rfl

theorem runRelease_storages (s : Store) (id : StorageId) (release : Release) :
    (s.runRelease id release).1.storages = s.storages := by
  cases release <;> simp [runRelease, deleteRecord_storages, tell]

theorem retire_storages (s : Store) (id : StorageId) (st : Storage) :
    (s.retire id st).1.storages = s.storages.erase id := by
  simp [retire, runRelease_storages]

/-- Drops a reference to a storage. With the last one goes the storage, and the reference that it
holds itself is dropped in turn. -/
def drop (s : Store) (id : StorageId) : Store :=
  match _found : s.storages.get? id with
  | none => s
  | some st =>
    if 1 < st.references then
      { s with
        storages := s.storages.update id fun st => { st with references := st.references - 1 } }
    else
      match (s.retire id st).2 with
      | none => (s.retire id st).1
      | some other => (s.retire id st).1.drop other
termination_by s.storages.size
decreasing_by
  rw [retire_storages]
  exact Table.size_erase_lt (by assumption)

/-- Drops one reference to each of the given storages, one after the other. -/
def dropAll (s : Store) : List StorageId → Store
  | [] => s
  | id :: ids => (s.drop id).dropAll ids

/-- Drops the reference that a handle holds. -/
def dropHandle (s : Store) (h : Handle) : Store :=
  s.dropAll h.target.toList

/-- Gives up a record: it is deleted, and so is the reference that it holds. -/
def dropRecord (s : Store) (r : RecordId) : Store :=
  (s.deleteRecord r).1.dropAll (s.deleteRecord r).2.toList

end SharedTensor.Store
