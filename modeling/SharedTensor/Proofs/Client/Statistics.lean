import Mathlib.Data.Finset.Card
import SharedTensor.Proofs.Client.Account
import SharedTensor.Proofs.Client.Keep
import SharedTensor.Proofs.Drop

/-!
# What the counters say

The counters of a store say what is there (`Store.Counted`): live storages, exports that have not
been deleted, and the bytes of the buffers that live storages own. Every effect keeps them so
(`Effect.counted`), hence no counter falls below zero, not even in the midst of a move, and once the
client holds nothing any more they are all back at zero (`statistics_balance`).
-/

namespace SharedTensor

/-- The bytes that are freed on release. -/
def Release.ownedSize : Release → Nat
  | .owned block => block.size
  | _ => 0

namespace Store

/-- The bytes of all buffers that live storages own. -/
def ownedBytes (s : Store) : Nat :=
  s.storages.total fun st => st.release.ownedSize

/-- How many exports have not been deleted. -/
def exports (s : Store) : Nat :=
  s.records.tally fun record => record.origin = .exported

/-- The counters say what is there, and what has been exported can be deleted. -/
structure Counted (s : Store) : Prop where
  live : s.counters.live = s.storages.tally fun _ => true
  created : s.counters.live + s.counters.released = s.storages.next
  exports : s.counters.exports = s.exports
  bytes : s.host.pool.allocated = s.ownedBytes
  deletable : ∀ r record, s.records.get? r = some record → record.origin = .exported →
    record.hasDeleter

/-- Every counter covers what a release or a deletion takes off it. -/
structure Covered (s : Store) : Prop where
  live : ∀ id st, s.storages.get? id = some st → 1 ≤ s.counters.live
  exports : ∀ r record, s.records.get? r = some record → record.origin = .exported →
    1 ≤ s.counters.exports
  bytes : ∀ id st block, s.storages.get? id = some st → st.release = .owned block →
    block.size ≤ s.host.pool.allocated

namespace Counted

variable {s : Store} {id : StorageId} {st : Storage}

theorem covered (h : Counted s) : Covered s where
  live id st found := by
    rw [h.live]
    exact Table.tally_pos_iff.2 ⟨id, st, found, rfl⟩
  exports r record found exported := by
    rw [h.exports]
    exact Table.tally_pos_iff.2 ⟨r, record, found, decide_eq_true exported⟩
  bytes id st block found owned := by
    rw [h.bytes, ← show st.release.ownedSize = block.size by rw [owned]; rfl]
    exact Table.le_total found fun st => st.release.ownedSize

/-- A change that does not touch what a storage owns. -/
theorem update {f : Storage → Storage} (h : Counted s)
    (same : ∀ st, s.storages.get? id = some st → (f st).release.ownedSize = st.release.ownedSize) :
    Counted { s with storages := s.storages.update id f } where
  live := by
    have same : (s.storages.update id f).tally (fun _ => true) = s.storages.tally fun _ => true :=
      Table.tally_update fun _ _ => rfl
    exact h.live.trans same.symm
  created := h.created.trans (Table.next_update ..).symm
  exports := h.exports
  bytes := h.bytes.trans (Table.total_update same).symm
  deletable := h.deletable

theorem bind (h : Counted s) (live : s.storages.get? id = some st) (unowned : st.release = .unowned)
    (owner : Owner) : Counted (s.bind id owner) := by
  refine h.update fun st' found => ?_
  obtain rfl : st = st' := Option.some.inj (live.symm.trans found)
  rw [unowned]
  rfl

/-- The bytes that a new storage owns are charged beforehand. -/
theorem add (h : Counted s) {host : Host} (d : Descriptor) (data : Pointer) {release : Release}
    (charged : host.pool.allocated = s.host.pool.allocated + release.ownedSize) :
    Counted ({ s with host }.add d data release).2 where
  live := by
    simp only [Store.add, Table.tally_add, if_true, h.live]
  created := by
    have := h.created
    simp only [Store.add, Table.next_add]
    omega
  exports := h.exports
  bytes := by
    simp only [Store.add, ownedBytes, Table.total_add]
    rw [charged, h.bytes, ownedBytes]
  deletable := h.deletable

/-- The bytes that a storage owned are refunded when it is forgotten. -/
theorem forget (h : Counted s) (found : s.storages.get? id = some st) (host : Host)
    (refunded : host.pool.allocated = s.host.pool.allocated - st.release.ownedSize) :
    Counted { s.forget id with host } where
  live := by
    have rest := Table.tally_erase found fun _ => true
    have := h.live
    simp only [if_true] at rest
    simp only [Store.forget]
    omega
  created := by
    have := h.covered.live id st found
    have := h.created
    simp only [Store.forget, Table.next_erase]
    omega
  exports := h.exports
  bytes := by
    have rest := Table.total_erase found fun st => st.release.ownedSize
    have := h.bytes
    simp only [Store.forget, ownedBytes] at this ⊢
    omega
  deletable := h.deletable

theorem publish (h : Counted s) (header : Header) : Counted (s.publish (header.exported id)) where
  live := h.live
  created := h.created
  exports := by
    simp only [Store.publish, Store.exports, Table.tally_add, h.exports]
    rfl
  bytes := h.bytes
  deletable r record found exported := by
    rw [Store.publish, Table.get?_add] at found
    split at found
    · obtain rfl := Option.some.inj found
      rfl
    · exact h.deletable r record found exported

theorem receive (h : Counted s) (header : Header) (producer : String) (hasDeleter : Bool) :
    Counted (s.receive (header.produced producer hasDeleter)) where
  live := h.live
  created := h.created
  exports := by
    simp only [Store.receive, Store.exports, Table.tally_add, h.exports]
    rfl
  bytes := h.bytes
  deletable r record found exported := by
    rw [Store.receive, Table.get?_add] at found
    split at found
    · obtain rfl := Option.some.inj found
      cases exported
    · exact h.deletable r record found exported

theorem overwrite (h : Counted s) (r : RecordId) (header : Header) :
    Counted (s.overwrite r header) where
  live := h.live
  created := h.created
  exports := by
    have same : (s.overwrite r header).exports = s.exports := Table.tally_update fun _ _ => rfl
    exact h.exports.trans same.symm
  bytes := h.bytes
  deletable i record found exported := by
    rw [Store.overwrite, Table.get?_update] at found
    split at found
    · obtain ⟨old, hold, rfl⟩ := Option.map_eq_some_iff.1 found
      exact h.deletable i old hold exported
    · exact h.deletable i record found exported

theorem deleteRecord (h : Counted s) (r : RecordId) : Counted (s.deleteRecord r).1 := by
  cases found : s.records.get? r with
  | none =>
    rw [Store.deleteRecord, found]
    exact h
  | some record =>
    by_cases hd : record.hasDeleter
    · have rest := Table.tally_erase found fun record => record.origin = .exported
      have deletable (i : RecordId) (other : Record) (hi : (s.records.erase r).get? i = some other) :
          other.origin = .exported → other.hasDeleter := by
        rw [Table.get?_erase] at hi
        split at hi
        · cases hi
        · exact h.deletable i other hi
      cases origin : record.origin with
      | exported =>
        rw [deleteRecord_of_exported found hd origin]
        refine ⟨h.live, h.created, ?_, h.bytes, deletable⟩
        have := h.exports
        simp only [origin, decide_true, if_true, Store.exports] at rest this ⊢
        omega
      | produced producer =>
        rw [deleteRecord_of_produced found hd origin]
        refine ⟨h.live, h.created, ?_, h.bytes, deletable⟩
        simp only [origin, reduceCtorEq, decide_false, Bool.false_eq_true, if_false] at rest
        exact h.exports.trans rest.symm
    · rw [deleteRecord_of_not_hasDeleter found hd]
      exact h

theorem retire (h : Counted s) (found : s.storages.get? id = some st) :
    Counted (s.retire id st).1 := by
  change Counted ((s.forget id).runRelease id st.release).1
  have forgotten (size : st.release.ownedSize = 0) : Counted (s.forget id) :=
    h.forget found s.host (by rw [size]; rfl)
  cases release : st.release with
  | owned block => exact h.forget found (s.host.free block) (by rw [release]; rfl)
  | unowned | view => exact forgotten (by rw [release]; rfl)
  | foreign r => exact (forgotten (by rw [release]; rfl)).deleteRecord r
  | external owner =>
    have h := forgotten (by rw [release]; rfl)
    exact ⟨h.live, h.created, h.exports, h.bytes, h.deletable⟩

end Counted

end Store

namespace Client

variable {c c' : Client}

/-- **Every effect leaves the counters right.** -/
theorem Effect.counted (e : Effect c c') (h : c.store.Counted) : c'.store.Counted := by
  cases e with
  | settings | gainEmpty | loseEmpty | toHandle | toReference | toRaw | toManaged => exact h
  | host pool =>
    refine ⟨h.live, h.created, h.exports, ?_, h.deletable⟩
    exact (congrArg Pool.allocated pool).trans h.bytes
  | warn => exact ⟨h.live, h.created, h.exports, h.bytes, h.deletable⟩
  | retain | lower => exact h.update fun _ _ => rfl
  | adopt live _ unowned owner => exact h.bind live unowned owner
  | retire live =>
    rw [owe_store]
    exact h.retire live
  | delete r =>
    rw [owe_store]
    exact h.deleteRecord r
  | allocate _ charged => exact h.add _ _ charged
  | borrow | view | imported => exact h.add _ _ rfl
  | exported _ header => exact h.publish header
  | produced header producer hasDeleter => exact h.receive header producer hasDeleter
  | overwrite r header => exact h.overwrite r header

theorem counted_run (moves : List Move) : (run {} moves).store.Counted := by
  refine run_induction balanced_empty ?_ (fun e _ h => e.counted h) moves
  exact ⟨rfl, rfl, rfl, rfl, fun r record found => by simp at found⟩

/-! ## What is kept alive -/

/-- No handle of a storage is left, no record, and no raw reference. -/
structure EmptyHanded (c : Client) : Prop where
  handles : ∀ id, ⟨some id⟩ ∉ c.handles
  managed : c.managed = 0
  raw : c.raw = 0
  references : c.references = 0

/-- Who holds nothing keeps nothing alive. -/
theorem EmptyHanded.not_keeps (h : c.EmptyHanded) (id : StorageId) : ¬ c.Keeps id := by
  intro kept
  induction kept with
  | handle mem => exact h.handles _ mem
  | reference mem => simp [h.references] at mem
  | managed mem => simp [h.managed] at mem
  | raw mem => simp [h.raw] at mem
  | through _ _ ih => exact ih

/-- The live storages are as many as are kept alive. -/
theorem exists_kept (h : Balanced c) (d : c.store.Descending) :
    ∃ ids : Finset StorageId, (∀ id, id ∈ ids ↔ c.Keeps id) ∧
      c.store.storages.tally (fun _ => true) = ids.card := by
  let live (id : StorageId) : Bool := (c.store.storages.get? id).any fun _ => true
  refine ⟨(Finset.range c.store.storages.next).filter fun id => live id, fun id => ?_, ?_⟩
  · rw [Finset.mem_filter, Finset.mem_range, keeps_iff_live h d]
    constructor
    · rintro ⟨-, there⟩
      cases found : c.store.storages.get? id with
      | none => simp [live, found] at there
      | some st => exact ⟨st, rfl⟩
    · rintro ⟨st, found⟩
      exact ⟨Table.lt_next_of_get? found, by simp [live, found]⟩
  · rw [Table.tally_eq_countP_range, Multiset.countP_eq_card_filter]
    rfl

/-- An export that has not been deleted keeps the client from being empty-handed. -/
theorem EmptyHanded.exports_eq_zero (h : c.EmptyHanded) (balanced : Balanced c)
    (dead : ∀ id, c.store.storages.get? id = none) (counted : c.store.Counted) :
    c.store.exports = 0 := by
  by_contra some
  obtain ⟨r, record, found, exported⟩ := Table.tally_pos_iff.1 (Nat.pos_of_ne_zero some)
  have placed := balanced.places_pos r record found
    (counted.deletable r record found (of_decide_eq_true exported))
  have inside : 0 < c.store.releasing (.foreign r) := by
    simpa [places, h.managed, h.raw] using placed
  obtain ⟨id, st, live, -⟩ := Table.tally_pos_iff.1 inside
  rw [dead] at live
  cases live

/-- **The counters say what is there after every run.** The storages that are live are those that
are kept alive, and they make up all storages together with those that have been released. The
counters of exports and of bytes in use are as high as there are exports to be deleted and bytes to
be freed. So no counter falls below zero, after any of the effects that the next move consists of,
and all of them are back at zero when the client holds nothing any more. -/
theorem statistics_balance (moves : List Move) :
    let c := run {} moves
    let s := c.store
    (∃ ids : Finset StorageId, (∀ id, id ∈ ids ↔ c.Keeps id) ∧ s.counters.live = ids.card) ∧
      s.counters.live + s.counters.released = s.storages.next ∧
      s.counters.exports = s.exports ∧
      s.host.pool.allocated = s.ownedBytes ∧
      (∀ m, Effects c (c.step m)) ∧
      (∀ c', Effects c c' → c'.store.Covered) ∧
      (c.EmptyHanded →
        s.counters.live = 0 ∧ s.counters.exports = 0 ∧ s.host.pool.allocated = 0) := by
  intro c s
  have balanced : Balanced c := balanced_run balanced_empty moves
  have counted : s.Counted := counted_run moves
  obtain ⟨ids, kept, card⟩ := exists_kept balanced (descending_run moves)
  have live : s.counters.live = ids.card := counted.live.trans card
  refine ⟨⟨ids, kept, live⟩, counted.created, counted.exports, counted.bytes,
    effects_step balanced, ?_, ?_⟩
  · intro c' es
    exact (es.preserve (P := fun c => c.store.Counted) balanced counted
      fun e _ h => e.counted h).covered
  · intro gone
    have dead (id : StorageId) : s.storages.get? id = none := by
      cases found : s.storages.get? id with
      | none => rfl
      | some st =>
        exact absurd ((keeps_iff_live balanced (descending_run moves)).2 ⟨st, found⟩)
          (gone.not_keeps id)
    have none : ids = ∅ :=
      Finset.eq_empty_of_forall_notMem fun id mem => gone.not_keeps id ((kept id).1 mem)
    rw [live, none, counted.exports, counted.bytes]
    exact ⟨rfl, gone.exports_eq_zero balanced dead counted, Table.total_eq_zero dead _⟩

/-- A tensor, a view of it, and a storage made from an export of the view, dropped in this order:
the last drop releases all three. -/
theorem statistics_balance_released :
    let moves : List Move := [.ofList .uint8 [1, 2] [2], .view ⟨some 0⟩ {}, .exportHandle ⟨some 1⟩,
      .drop ⟨some 0⟩, .drop ⟨some 1⟩, .importManaged 0, .drop ⟨some 2⟩]
    let s := (run {} moves).store
    (run {} moves).EmptyHanded ∧ s.counters.live = 0 ∧ s.counters.released = 3 ∧
      s.counters.exports = 0 ∧ s.host.pool.allocated = 0 := by
  intro moves s
  have handles : (run {} moves).handles = 0 := by decide +kernel
  have gone : (run {} moves).EmptyHanded := by
    refine ⟨fun id => ?_, by decide +kernel, by decide +kernel, by decide +kernel⟩
    rw [handles]
    exact Multiset.notMem_zero _
  have made : s.storages.next = 3 := by decide +kernel
  obtain ⟨-, created, -, -, -, -, zero⟩ := statistics_balance moves
  obtain ⟨live, exports, bytes⟩ := zero gone
  rw [live, Nat.zero_add] at created
  exact ⟨gone, live, created.trans made, exports, bytes⟩

end Client

end SharedTensor
