import SharedTensor.Proofs.Client.Change

/-!
# What moves preserve

A property of stores that is preserved by the small changes which a store goes through
(`Preserved`) is preserved by every move (`Preserved.step`). A storage is given to an owner only by
a move that is pledged to tell the owner of the release, and no block is handed out at the null
address (`Change.frontier_pos`).
-/

namespace SharedTensor

namespace Client

/-- The property is preserved by the small changes of a store, as long as storages are only given to
owners as told. Whatever happens to memory, no block is handed out at the null address. -/
structure Preserved (P : Store → Prop) (binds : StorageId → Owner → Prop) : Prop where
  retain : ∀ {s} id, P s → P (s.retain id)
  lower : ∀ {s} id, P s → P (s.lower id)
  retire : ∀ {s id st}, s.storages.get? id = some st → P s → P (s.retire id st).1
  delete : ∀ {s} r, P s → P (s.deleteRecord r).1
  add : ∀ {s} d data {release}, (∀ owner, release ≠ .external owner) → P s →
    P (s.add d data release).2
  host : ∀ {s host}, (0 < s.host.frontier → 0 < host.frontier) → P s → P { s with host }
  bind : ∀ {s id owner}, binds id owner → P s → P (s.bind id owner)
  publish : ∀ {s} record, P s → P (s.publish record)
  receive : ∀ {s} record, P s → P (s.receive record)
  overwrite : ∀ {s} r header, P s → P (s.overwrite r header)
  warn : ∀ {s} r, P s → P (s.tell (.undeletable r))

/-- **What the small changes preserve is preserved by a move.** -/
theorem Preserved.step {P : Store → Prop} {c : Client} {m : Move}
    (h : Preserved P fun id owner => Pledge c m id (.released id owner)) (start : P c.store) :
    P (c.step m).store := by
  refine (changes_step c m).preserve (fun s s' change holds => ?_) start
  cases change with
  | retain id => exact h.retain id holds
  | lower id => exact h.lower id holds
  | retire live => exact h.retire live holds
  | delete r => exact h.delete r holds
  | warn r => exact h.warn r holds
  | host frontier => exact h.host frontier holds
  | allocate ok memory =>
    have frontier := Store.frontier_pos_of_freshBlock ok
    exact h.add _ _ (by simp) (h.host frontier holds)
  | borrow | view | imported => exact h.add _ _ (by simp) holds
  | bind asked pledge =>
    cases asked
    exact h.bind pledge holds
  | publish => exact h.publish _ holds
  | receive => exact h.receive _ holds
  | overwrite => exact h.overwrite _ _ holds
  | strip asked => cases asked

/-! ## Memory -/

/-- Releases and deletions hand out no memory. -/
theorem host_deleteRecord (s : Store) (r : RecordId) :
    (s.deleteRecord r).1.host = s.host := by
  unfold Store.deleteRecord
  repeat' split
  all_goals rfl

theorem frontier_retire (s : Store) (id : StorageId) (st : Storage) :
    (s.retire id st).1.host.frontier = s.host.frontier := by
  change ((s.forget id).runRelease id st.release).1.host.frontier = _
  cases st.release with
  | foreign r => exact congrArg Host.frontier (host_deleteRecord (s.forget id) r)
  | owned | unowned | view | external => rfl

theorem Change.frontier_pos {c : Client} {t : Turn} {s s' : Store} (e : Change c t s s')
    (pos : 0 < s.host.frontier) : 0 < s'.host.frontier := by
  cases e with
  | retain | lower | warn | borrow | view | imported | bind | publish | receive | overwrite
  | strip => exact pos
  | retire => rwa [frontier_retire]
  | delete => rwa [host_deleteRecord]
  | host kept => exact kept pos
  | allocate ok memory =>
    have frontier := Store.frontier_pos_of_freshBlock ok pos
    exact frontier

/-- No block is ever handed out at the null address. -/
theorem frontier_pos_play (turns : List Turn) : 0 < (play {} turns).store.host.frontier :=
  play_induction (fun _ _ _ _ e => e.frontier_pos) (by decide) turns

theorem frontier_pos_run (moves : List Move) : 0 < (run {} moves).store.host.frontier := by
  rw [← play_moves]
  exact frontier_pos_play _

end Client

end SharedTensor
