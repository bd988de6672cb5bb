import SharedTensor.Proofs.Client.Export
import SharedTensor.Proofs.Client.Validity

/-!
# What a handle or a record leads to

A handle leads to its storage, and a record of an export to the storage that it is of. Whatever is
true of such a storage, and depends on the tensor only (`Storage.Lasting`), stays true while other
moves are made (`Client.bears_step`), is handed on from a handle to an export of it
(`Client.bears_export`), and from a record to the handle that it is taken in under
(`Client.bears_importManaged`, `Client.bears_importRaw`).
-/

namespace SharedTensor

/-- The property depends on the tensor only, not on its count or its release. -/
def Storage.Lasting (P : Storage → Prop) : Prop :=
  ∀ st st', st.Same st' → P st → P st'

namespace Client

/-- What has been come by: a handle or a record. -/
inductive Carrier
  | handle (h : Handle)
  | record (r : RecordId)

/-- The storage behind the handle has the property, if it is still there; the record, if it is still
there, is an export of a storage that had it. -/
def Bears (P : Storage → Prop) (s : Store) : Carrier → Prop
  | .handle h => ∃ id, h = ⟨some id⟩ ∧ id < s.storages.next ∧
      ∀ st, s.storages.get? id = some st → P st
  | .record r => r < s.records.next ∧ ∀ record, s.records.get? r = some record →
      ∃ id st, s.IsExport id st record ∧ P st

variable {c : Client} {h : Handle} {x : Carrier} {t : Turn} {s s' : Store} {P : Storage → Prop}

theorem Bears.of_live {id : StorageId} {st : Storage} (live : s.storages.get? id = some st)
    (holds : P st) : Bears P s (.handle ⟨some id⟩) := by
  refine ⟨id, rfl, Table.lt_next_of_get? live, fun st' found => ?_⟩
  rwa [← Option.some.inj (live.symm.trans found)]

/-- A property that the storage behind a handle has, if it is there, is one of that storage. -/
theorem Bears.of_handle {id : StorageId} {st : Storage} (bears : Bears P s (.handle ⟨some id⟩))
    (live : s.storages.get? id = some st) : P st := by
  obtain ⟨i, hid, -, holds⟩ := bears
  obtain rfl : id = i := by simpa using hid
  exact holds st live

/-! ## Other moves -/

/-- A small change leaves alone what is led to, unless it overwrites the record. -/
theorem Change.bears (lasting : Storage.Lasting P) {m : Move} (e : Change c (.move m) s s')
    (leaves : ∀ r header, x = .record r → m ≠ .overwrite r header) (bears : Bears P s x) :
    Bears P s' x := by
  cases x with
  | handle h =>
    obtain ⟨id, hid, given, holds⟩ := bears
    refine ⟨id, hid, given.trans_le e.next_le.1, fun st' found => ?_⟩
    obtain ⟨st, live, kept, -⟩ := e.later.kept id st' given found
    exact lasting st st' kept.same (holds st live)
  | record r =>
    obtain ⟨given, exported⟩ := bears
    refine ⟨given.trans_le e.next_le.2, fun record' found => ?_⟩
    rcases e.record_cases found with ⟨record, old, rfl | ⟨header, asked, -⟩ | ⟨_, _, asked, -⟩⟩ |
      ⟨hr, -⟩
    · obtain ⟨id, st, same, holds⟩ := exported record' old
      exact ⟨id, st, e.isExport same, holds⟩
    · exact absurd (Turn.move.inj asked) (leaves r header rfl)
    · cases asked
    · exact absurd hr given.ne

theorem bears_step (lasting : Storage.Lasting P) {m : Move} (bears : Bears P c.store x)
    (leaves : ∀ r header, x = .record r → m ≠ .overwrite r header) :
    Bears P (c.step m).store x :=
  (changes_step c m).preserve (P := (Bears P · x)) (fun _ _ e => e.bears lasting leaves) bears

/-! ## Exports and imports -/

theorem bears_export {r : RecordId} (held : h ∈ c.handles) (bears : Bears P c.store (.handle h))
    (ok : c.store.exportRecord c.config h = .ok (r, s)) :
    Bears P (c.step (.exportHandle h)).store (.record r) := by
  have permitted : c.permits (.exportHandle h) := decide_eq_true held
  rw [step_of_permits permitted, act, ok]
  have changes : Changes c (.move (.exportHandle h)) c.store s := changes_exportRecord ok
  obtain ⟨id, st, rfl, live, rank, rfl, rfl⟩ := Store.afterExport_of_ok ok
  refine ⟨(Nat.lt_succ_self _).trans_eq (Table.next_add ..).symm, fun record found => ?_⟩
  obtain rfl : Store.exportedRecord c.config id st = record := by
    simpa [keep, Store.afterExport, Store.publish, Store.retain, Table.get?_add] using found
  exact ⟨id, st, changes.preserve (P := (Store.IsExport · id st _)) (fun _ _ e => e.isExport)
    (.of_live live rank), bears.of_handle live⟩

/-- An import takes over what the record leads to, which is live as long as the record is there. -/
theorem bears_import {r : RecordId} (lasting : Storage.Lasting P) (balanced : Balanced c)
    (valid : c.store.Valid) (bears : Bears P c.store (.record r))
    (ok : c.store.importRecord c.config r = (.ok h, s)) : Bears P s (.handle h) := by
  obtain ⟨-, exported⟩ := bears
  cases found : c.store.records.get? r with
  | none =>
    rw [Store.importRecord, found] at ok
    cases ok
  | some record =>
    obtain ⟨id, st, exports, holds⟩ := exported record found
    rcases c.store.importRecord_cases (c := c.config) found with ⟨f, fails⟩ | ⟨d, importable, made⟩
    · rw [fails] at ok
      cases ok
    · rw [made] at ok
      cases ok
      obtain ⟨source, live⟩ := balanced.live (holders_pos_of_exported (exports.exportedFrom? found))
      have same := exports.same found live (valid id source live) importable
      rw [Store.announce, if_pos (Record.hasDeleter_of_exporter? exports.exporter?)]
      refine .of_live ((Store.get?_add ..).trans (if_pos rfl)) (lasting _ _ same ?_)
      exact lasting _ _ (exports.kept source live).same holds

theorem bears_importManaged {r : RecordId} (lasting : Storage.Lasting P) (balanced : Balanced c)
    (valid : c.store.Valid) (held : r ∈ c.managed) (bears : Bears P c.store (.record r))
    (ok : c.store.importRecord c.config r = (.ok h, s)) :
    Bears P (c.step (.importManaged r)).store (.handle h) := by
  have permitted : c.permits (.importManaged r) := decide_eq_true held
  rw [step_of_permits permitted, act, importRecord, ok]
  exact bears_import lasting balanced valid bears ok

theorem bears_importRaw {r : RecordId} (lasting : Storage.Lasting P) (balanced : Balanced c)
    (valid : c.store.Valid) (held : r ∈ c.raw) (bears : Bears P c.store (.record r))
    (ok : c.store.importRecord c.config r = (.ok h, s)) :
    Bears P (c.step (.importRaw r)).store (.handle h) := by
  have permitted : c.permits (.importRaw r) := decide_eq_true held
  rw [step_of_permits permitted, act, importRecord, ok]
  exact bears_import lasting balanced valid bears ok

end Client

end SharedTensor
