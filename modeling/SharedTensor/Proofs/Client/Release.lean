import SharedTensor.Proofs.Client.Keep

/-!
# Others are told once, and not too early

When the last reference to a storage goes, the owner of its memory or the producer of its record is
told (`Store.due?`). What has been told of is over (`Store.Truthful`): the storage or the record is
gone, and its number is not given out again. A duty therefore stands, with nothing told, until the
effect that takes the storage away; that effect tells just the one notice (`Effect.due`), and from
then on nothing more is told of it. As a storage is live exactly as long as it is kept alive, nobody
is told while anything keeps it alive, and afterwards they have been told once (`told_once`).
-/

namespace SharedTensor

/-- What a notice may be about. -/
inductive Event
  | release (storage : StorageId)
  | deletion (record : RecordId)
  deriving DecidableEq

namespace Notice

/-- The event that a notice tells of; a warning tells of none. -/
def event? : Notice → Option Event
  | released id _ => some (.release id)
  | deleted r _ => some (.deletion r)
  | undeletable _ => none

end Notice

/-- What is told of the deletion of a record. -/
def Record.due? (record : Record) (r : RecordId) : Option Notice :=
  match record.origin with
  | .exported => none
  | .produced producer => if record.hasDeleter then some (.deleted r producer) else none

namespace Store

/-- What is told of the deletion of the record with a number. -/
def recordDue? (s : Store) (r : RecordId) : Option Notice :=
  (s.records.get? r).bind (·.due? r)

/-- What is told when a storage of the given release goes. -/
def releaseDue? (s : Store) (id : StorageId) : Release → Option Notice
  | .external owner => some (.released id owner)
  | .foreign r => s.recordDue? r
  | _ => none

/-- What is told when a live storage goes. -/
def due? (s : Store) (id : StorageId) : Option Notice :=
  (s.storages.get? id).bind fun st => s.releaseDue? id st.release

/-- What has been told of the event that the given notice tells of. -/
def told (s : Store) (n : Notice) : List Notice :=
  s.notices.filter fun other => other.event? = n.event?

/-- Is the event over, with no way to come again? -/
def Past (s : Store) : Event → Prop
  | .release id => s.storages.get? id = none ∧ id < s.storages.next
  | .deletion r => s.records.get? r = none ∧ r < s.records.next

/-- Everything that has been told of is over. -/
def Truthful (s : Store) : Prop :=
  ∀ n ∈ s.notices, ∀ e, n.event? = some e → s.Past e

variable {s : Store} {id : StorageId} {r : RecordId} {n : Notice}

/-- A notice that is due tells of the release of the storage or of the deletion of its record. -/
theorem due?_eq_some (due : s.due? id = some n) :
    ∃ st, s.storages.get? id = some st ∧
      ((∃ owner, st.release = .external owner ∧ n = .released id owner) ∨
        ∃ r record, st.release = .foreign r ∧ s.records.get? r = some record ∧
          record.due? r = some n) := by
  obtain ⟨st, live, hst⟩ := Option.bind_eq_some_iff.1 due
  refine ⟨st, live, ?_⟩
  cases hr : st.release with
  | external owner =>
    rw [hr] at hst
    exact .inl ⟨owner, rfl, (Option.some.inj hst).symm⟩
  | foreign r =>
    rw [hr] at hst
    obtain ⟨record, found, hrecord⟩ := Option.bind_eq_some_iff.1 hst
    exact .inr ⟨r, record, rfl, found, hrecord⟩
  | owned | unowned | view => simp [hr, releaseDue?] at hst

end Store

theorem Record.due?_eq_some {record : Record} {r : RecordId} {n : Notice}
    (h : record.due? r = some n) : ∃ producer, n = .deleted r producer := by
  unfold due? at h
  split at h
  · cases h
  · split at h
    · exact ⟨_, (Option.some.inj h).symm⟩
    · cases h

namespace Store

variable {s : Store} {id : StorageId} {r : RecordId} {n : Notice}

/-- What is due tells of an event that is not over. -/
theorem event?_of_due (due : s.due? id = some n) : ∃ e, n.event? = some e ∧ ¬ s.Past e := by
  obtain ⟨st, live, ⟨owner, _, rfl⟩ | ⟨r, record, _, found, hrecord⟩⟩ := due?_eq_some due
  · exact ⟨.release id, rfl, fun past => by simp [past.1] at live⟩
  · obtain ⟨producer, rfl⟩ := Record.due?_eq_some hrecord
    exact ⟨.deletion r, rfl, fun past => by simp [past.1] at found⟩

/-- A deletion tells what is due. -/
theorem notices_deleteRecord (s : Store) (r : RecordId) :
    (s.deleteRecord r).1.notices = s.notices ++ (s.recordDue? r).toList := by
  cases hr : s.records.get? r with
  | none => simp [deleteRecord, recordDue?, hr]
  | some record =>
    by_cases hd : record.hasDeleter
    · cases ho : record.origin <;>
        simp [deleteRecord, recordDue?, Record.due?, hr, hd, ho, tell]
    · cases ho : record.origin <;>
        simp [deleteRecord, recordDue?, Record.due?, hr, hd, ho]

/-- A release tells what is due. -/
theorem notices_retire (s : Store) (id : StorageId) (st : Storage) :
    (s.retire id st).1.notices = s.notices ++ (s.releaseDue? id st.release).toList := by
  change ((s.forget id).runRelease id st.release).1.notices = _
  cases st.release with
  | foreign r => exact (s.forget id).notices_deleteRecord r
  | external owner => rfl
  | owned | unowned | view => exact (List.append_nil _).symm

theorem next_deleteRecord (s : Store) (r : RecordId) :
    (s.deleteRecord r).1.records.next = s.records.next := by
  cases hr : s.records.get? r with
  | none => simp [deleteRecord, hr]
  | some record =>
    by_cases hd : record.hasDeleter
    · rw [(deleteRecord_of_hasDeleter hr hd).1, Table.next_erase]
    · rw [deleteRecord_of_not_hasDeleter hr hd]

theorem next_retire (s : Store) (id : StorageId) (st : Storage) :
    (s.retire id st).1.records.next = s.records.next := by
  change ((s.forget id).runRelease id st.release).1.records.next = _
  rcases (s.forget id).records_runRelease id st.release with heq | ⟨r, _, heq⟩
  · rw [heq]
    rfl
  · rw [heq, next_deleteRecord]
    rfl

/-- After its deletion a record of which something was due is gone. -/
theorem get?_deleteRecord_of_due (due : s.recordDue? r = some n) :
    (s.deleteRecord r).1.records.get? r = none := by
  obtain ⟨record, found, hrecord⟩ := Option.bind_eq_some_iff.1 due
  have deletable : record.hasDeleter := by
    unfold Record.due? at hrecord
    split at hrecord
    · cases hrecord
    · split at hrecord
      · assumption
      · cases hrecord
  rw [(deleteRecord_of_hasDeleter found deletable).1, Table.get?_erase, if_pos rfl]

/-- What a deletion tells of was not over, and is over with it. -/
theorem past_deleteRecord (due : s.recordDue? r = some n) {event : Event}
    (hevent : n.event? = some event) : ¬ s.Past event ∧ (s.deleteRecord r).1.Past event := by
  obtain ⟨record, found, hrecord⟩ := Option.bind_eq_some_iff.1 due
  obtain ⟨producer, rfl⟩ := Record.due?_eq_some hrecord
  obtain rfl : Event.deletion r = event := Option.some.inj hevent
  refine ⟨fun past => by simp [past.1] at found, get?_deleteRecord_of_due due, ?_⟩
  rw [next_deleteRecord]
  exact Table.lt_next_of_get? found

/-- What is due of a storage is over once it has been retired. -/
theorem past_retire {st : Storage} (live : s.storages.get? id = some st) (due : s.due? id = some n)
    {event : Event} (hevent : n.event? = some event) : (s.retire id st).1.Past event := by
  obtain ⟨st', live', ⟨owner, _, rfl⟩ | ⟨r, record, foreign, found, hrecord⟩⟩ := due?_eq_some due
  · obtain rfl : Event.release id = event := Option.some.inj hevent
    refine ⟨by rw [get?_retire, if_pos rfl], ?_⟩
    rw [retire_storages, Table.next_erase]
    exact Table.lt_next_of_get? live
  · obtain rfl : st = st' := Option.some.inj (live.symm.trans live')
    have due' : (s.forget id).recordDue? r = some n :=
      Option.bind_eq_some_iff.2 ⟨record, found, hrecord⟩
    change ((s.forget id).runRelease id st.release).1.Past event
    rw [foreign]
    exact (past_deleteRecord due' hevent).2

end Store

namespace Client

variable {c c' : Client} {id : StorageId} {n : Notice}

/-! ## What is over stays over -/

theorem Effect.next_le (e : Effect c c') :
    c.store.storages.next ≤ c'.store.storages.next ∧
      c.store.records.next ≤ c'.store.records.next := by
  cases e with
  | settings | host | gainEmpty | loseEmpty | toHandle | toReference | toRaw | toManaged | warn =>
    exact ⟨le_rfl, le_rfl⟩
  | retain | lower | adopt => exact ⟨(Table.next_update ..).ge, le_rfl⟩
  | allocate | borrow | view | imported =>
    exact ⟨(Nat.le_succ _).trans (Table.next_add ..).ge, le_rfl⟩
  | exported | produced => exact ⟨le_rfl, (Nat.le_succ _).trans (Table.next_add ..).ge⟩
  | overwrite => exact ⟨le_rfl, (Table.next_update ..).ge⟩
  | retire =>
    rw [owe_store, Store.retire_storages, Table.next_erase, Store.next_retire]
    exact ⟨le_rfl, le_rfl⟩
  | delete =>
    rw [owe_store, Store.deleteRecord_storages, Store.next_deleteRecord]
    exact ⟨le_rfl, le_rfl⟩

theorem Effect.past (e : Effect c c') (h : Balanced c) {event : Event}
    (past : c.store.Past event) : c'.store.Past event := by
  obtain ⟨storages, records⟩ := e.next_le
  cases event with
  | release id =>
    obtain ⟨gone, lt⟩ := past
    refine ⟨Option.eq_none_iff_forall_ne_some.2 fun st' found => ?_, lt_of_lt_of_le lt storages⟩
    rcases e.storage_cases h found with ⟨st, live, _⟩ | ⟨hid, _⟩
    · simp [gone] at live
    · exact absurd hid lt.ne
  | deletion r =>
    obtain ⟨gone, lt⟩ := past
    refine ⟨Option.eq_none_iff_forall_ne_some.2 fun record' found => ?_,
      lt_of_lt_of_le lt records⟩
    rcases e.record_cases h found with ⟨record, old, _⟩ | ⟨hr, _⟩
    · simp [gone] at old
    · exact absurd hr lt.ne

/-! ## What an effect tells -/

/-- An effect tells one thing at most, and what it tells of is over with it. -/
theorem Effect.notices (e : Effect c c') :
    ∃ said : Option Notice, c'.store.notices = c.store.notices ++ said.toList ∧
      ∀ n, said = some n → ∀ event, n.event? = some event →
        ¬ c.store.Past event ∧ c'.store.Past event := by
  have silent {c c' : Client} (same : c'.store.notices = c.store.notices) :
      ∃ said : Option Notice, c'.store.notices = c.store.notices ++ said.toList ∧
        ∀ n, said = some n → ∀ event, n.event? = some event →
          ¬ c.store.Past event ∧ c'.store.Past event :=
    ⟨none, same.trans (List.append_nil _).symm, fun n hn => by cases hn⟩
  cases e with
  | warn r =>
    refine ⟨some (.undeletable r), rfl, fun n hn event hevent => ?_⟩
    obtain rfl := Option.some.inj hn
    cases hevent
  | @delete c r =>
    refine ⟨c.store.recordDue? r, ?_, fun n due event hevent => ?_⟩
    · rw [owe_store, Store.notices_deleteRecord]
    · rw [owe_store]
      exact Store.past_deleteRecord due hevent
  | @retire c id st live last =>
    have hdue : c.store.due? id = c.store.releaseDue? id st.release := by
      rw [Store.due?, live, Option.bind_some]
    refine ⟨c.store.due? id, ?_, fun n due event hevent => ?_⟩
    · rw [owe_store, Store.notices_retire, hdue]
    · obtain ⟨e, he, notPast⟩ := Store.event?_of_due due
      obtain rfl : e = event := Option.some.inj (he.symm.trans hevent)
      rw [owe_store]
      exact ⟨notPast, Store.past_retire live due hevent⟩
  | _ => exact silent rfl

theorem Effect.truthful (e : Effect c c') (h : Balanced c) (t : c.store.Truthful) :
    c'.store.Truthful := by
  obtain ⟨said, heq, hsaid⟩ := e.notices
  intro n mem event hevent
  rw [heq, List.mem_append, Option.mem_toList] at mem
  rcases mem with old | new
  · exact e.past h (t n old event hevent)
  · exact (hsaid n new event hevent).2

theorem truthful_run (moves : List Move) : (run {} moves).store.Truthful := by
  refine run_induction balanced_empty ?_ (fun e h t => e.truthful h t) moves
  intro n mem
  cases mem

/-- An event that is over before an effect, or is not over after it, is not told of. -/
theorem Effect.told_eq (e : Effect c c') {event : Event} (hevent : n.event? = some event)
    (same : c.store.Past event ∨ ¬ c'.store.Past event) : c'.store.told n = c.store.told n := by
  obtain ⟨said, heq, hsaid⟩ := e.notices
  rw [Store.told, heq, List.filter_append, Store.told, List.append_right_eq_self,
    List.filter_eq_nil_iff]
  intro other mem hother
  rw [hevent, decide_eq_true_eq] at hother
  obtain ⟨notPast, past⟩ := hsaid other (Option.mem_toList.1 mem) event hother
  rcases same with before | after
  · exact notPast before
  · exact after past

/-! ## What is due is told with the end of the storage -/

/-- The effect that takes a storage away tells what is due. -/
theorem Effect.notices_of_gone (e : Effect c c') {st : Storage}
    (live : c.store.storages.get? id = some st) (gone : c'.store.storages.get? id = none) :
    c'.store.notices = c.store.notices ++ (c.store.due? id).toList := by
  cases e with
  | @retire c i st' live' last =>
    rw [owe_store] at gone ⊢
    rw [Store.get?_retire] at gone
    split at gone
    · next hid =>
      subst hid
      obtain rfl : st' = st := Option.some.inj (live'.symm.trans live)
      rw [Store.notices_retire, Store.due?, live, Option.bind_some]
    · exact absurd (live.symm.trans gone) (Option.some_ne_none st)
  | @delete c r =>
    rw [owe_store, Store.deleteRecord_storages] at gone
    exact absurd (live.symm.trans gone) (Option.some_ne_none st)
  | retain | lower | adopt =>
    simp only [Store.retain, Store.lower, Store.bind, Table.get?_update] at gone
    split at gone <;> simp [live] at gone
  | allocate | borrow | view | imported =>
    simp only [add, Store.get?_add] at gone
    split at gone
    · cases gone
    · exact absurd (live.symm.trans gone) (Option.some_ne_none st)
  | _ => exact absurd (live.symm.trans gone) (Option.some_ne_none st)

/-- **A duty stands with nothing told, or it is told and the storage is gone.** -/
theorem Effect.due (e : Effect c c') (h : Balanced c) (due : c.store.due? id = some n) :
    (c'.store.due? id = some n ∧ c'.store.told n = c.store.told n) ∨
      c'.store.storages.get? id = none ∧ c'.store.told n = c.store.told n ++ [n] := by
  obtain ⟨st, live, hst⟩ := Store.due?_eq_some due
  cases hlive' : c'.store.storages.get? id with
  | none =>
    refine .inr ⟨rfl, ?_⟩
    rw [Store.told, e.notices_of_gone live hlive', due, Option.toList_some, List.filter_append]
    simp [Store.told]
  | some st' =>
    left
    have kept := e.storage_kept h live hlive'
    -- the release is the same, and so is the record that it deletes
    have due' : c'.store.due? id = some n := by
      rw [Store.due?, hlive', Option.bind_some]
      rcases hst with ⟨owner, external, rfl⟩ | ⟨r, record, foreign, found, hrecord⟩
      · rcases kept.release with same | ⟨unowned, _⟩
        · rw [same, external]
          rfl
        · rw [external] at unowned
          cases unowned
      · have foreign' : st'.release = .foreign r := by
          rcases kept.release with same | ⟨unowned, _⟩
          · rw [same, foreign]
          · rw [foreign] at unowned
            cases unowned
        obtain ⟨record', found'⟩ := (e.balanced h).exists_of_foreign hlive' foreign'
        have keptRecord := e.record_kept h found found'
        rw [foreign']
        refine Option.bind_eq_some_iff.2 ⟨record', found', ?_⟩
        rw [← hrecord, Record.due?, Record.due?, keptRecord.origin, keptRecord.hasDeleter]
    obtain ⟨event, hevent, notPast⟩ := Store.event?_of_due due'
    exact ⟨due', e.told_eq hevent (.inr notPast)⟩

/-- The duty is pending, with nothing told of it, or it is over and told once. -/
def Told (c : Client) (id : StorageId) (n : Notice) : Prop :=
  (c.store.due? id = some n ∧ c.store.told n = []) ∨
    c.store.Past (.release id) ∧ (∃ event, n.event? = some event ∧ c.store.Past event) ∧
      c.store.told n = [n]

theorem Effect.told (e : Effect c c') (h : Balanced c) (t : Told c id n) : Told c' id n := by
  rcases t with ⟨due, nothing⟩ | ⟨gone, ⟨event, hevent, past⟩, once⟩
  · rcases e.due h due with ⟨due', same⟩ | ⟨gone, more⟩
    · exact .inl ⟨due', same.trans nothing⟩
    · rw [nothing, List.nil_append] at more
      obtain ⟨st, live, _⟩ := Store.due?_eq_some due
      obtain ⟨event, hevent, notPast⟩ := Store.event?_of_due due
      have bound := lt_of_lt_of_le (Table.lt_next_of_get? live) e.next_le.1
      refine .inr ⟨⟨gone, bound⟩, ⟨event, hevent, ?_⟩, more⟩
      -- the notice is new, so what it tells of is over
      by_contra notPast'
      rw [e.told_eq hevent (.inr notPast'), nothing] at more
      cases more
  · exact .inr ⟨e.past h gone, ⟨event, hevent, e.past h past⟩,
      (e.told_eq hevent (.inl past)).trans once⟩

/-! ## Duties taken on -/

/-- The move hands a storage the duty to tell something: it succeeds in giving the memory to an
owner, or in making a producer's record with a deleter into a tensor. -/
inductive Pledge (c : Client) : Move → StorageId → Notice → Prop
  | adopt {id : StorageId} {owner : Owner} (held : ⟨some id⟩ ∈ c.handles)
      (ok : (c.store.adopt ⟨some id⟩ owner).isOk) :
      Pledge c (.adopt ⟨some id⟩ owner) id (.released id owner)
  | adoptNamed {id : StorageId} {name : String} {callback : Callback}
      {context : CallbackContext} (held : ⟨some id⟩ ∈ c.handles)
      (registered : c.deleters.get? name = some callback)
      (ok : (c.store.adoptNamed c.deleters ⟨some id⟩ name context).isOk) :
      Pledge c (.adoptNamed ⟨some id⟩ name context) id (.released id (.callback callback context))
  | importManaged {r : RecordId} {record : Record} {producer : String} {id : StorageId}
      (held : r ∈ c.managed) (found : c.store.records.get? r = some record)
      (produced : record.origin = .produced producer) (deletable : record.hasDeleter)
      (ok : (c.store.importRecord c.config r).1.toOption = some ⟨some id⟩) :
      Pledge c (.importManaged r) id (.deleted r producer)
  | importRaw {r : RecordId} {record : Record} {producer : String} {id : StorageId}
      (held : r ∈ c.raw) (found : c.store.records.get? r = some record)
      (produced : record.origin = .produced producer) (deletable : record.hasDeleter)
      (ok : (c.store.importRecord c.config r).1.toOption = some ⟨some id⟩) :
      Pledge c (.importRaw r) id (.deleted r producer)

theorem due?_bind {s : Store} {st : Storage} (live : s.storages.get? id = some st)
    (owner : Owner) : (s.bind id owner).due? id = some (.released id owner) := by
  simp [Store.due?, Store.bind, live, Store.releaseDue?]

theorem due?_importRecord {r : RecordId} {record : Record} {producer : String}
    (found : c.store.records.get? r = some record) (produced : record.origin = .produced producer)
    (deletable : record.hasDeleter)
    (ok : (c.store.importRecord c.config r).1.toOption = some ⟨some id⟩) :
    (c.importRecord r).store.due? id = some (.deleted r producer) := by
  have hrecord : record.due? r = some (.deleted r producer) := by
    rw [Record.due?, produced, deletable]
    rfl
  rcases c.store.importRecord_cases (c := c.config) found with ⟨f, hfail⟩ | ⟨d, _, hok⟩
  · rw [hfail] at ok
    cases ok
  · rw [importRecord, hok]
    rw [hok] at ok
    obtain rfl : c.store.storages.next = id := by simpa [Except.toOption] using ok
    rw [Store.announce, if_pos deletable, Store.due?, Store.get?_add, if_pos rfl, Option.bind_some]
    exact Option.bind_eq_some_iff.2 ⟨record, found, hrecord⟩

theorem exists_of_isOk {α : Type} {result : Except Fault α} (h : result.isOk) :
    ∃ value, result = .ok value := by
  cases result with
  | error f => cases h
  | ok value => exact ⟨value, rfl⟩

/-- After the move the duty stands. -/
theorem Pledge.due {m : Move} (pledge : Pledge c m id n) : (c.step m).store.due? id = some n := by
  cases pledge with
  | @adopt _ owner held isOk =>
    obtain ⟨s', ok⟩ := exists_of_isOk isOk
    obtain ⟨i, st, hh, live, _, _, rfl⟩ := Store.adopt_eq_ok ok
    obtain rfl : id = i := by simpa using hh
    have permitted : c.permits (.adopt ⟨some id⟩ owner) := decide_eq_true held
    rw [step_of_permits permitted, act, ok]
    exact due?_bind live owner
  | @adoptNamed _ name callback context held registered isOk =>
    obtain ⟨s', ok⟩ := exists_of_isOk isOk
    obtain ⟨callback', registered', hadopt⟩ := Store.adoptNamed_eq_ok ok
    obtain rfl : callback = callback' := Option.some.inj (registered.symm.trans registered')
    obtain ⟨i, st, hh, live, _, _, rfl⟩ := Store.adopt_eq_ok hadopt
    obtain rfl : id = i := by simpa using hh
    have permitted : c.permits (.adoptNamed ⟨some id⟩ name context) := decide_eq_true held
    rw [step_of_permits permitted, act, ok]
    exact due?_bind live (.callback callback context)
  | @importManaged r _ _ _ held found produced deletable ok =>
    have permitted : c.permits (.importManaged r) := decide_eq_true held
    rw [step_of_permits permitted, act]
    exact due?_importRecord (c := { c with managed := c.managed.erase r })
      found produced deletable ok
  | @importRaw r _ _ _ held found produced deletable ok =>
    have permitted : c.permits (.importRaw r) := decide_eq_true held
    rw [step_of_permits permitted, act]
    exact due?_importRecord (c := { c with raw := c.raw.erase r }) found produced deletable ok

/-! ## Runs -/

theorem told_run {m : Move} (h : Balanced c) (t : c.store.Truthful) (pledge : Pledge c m id n)
    (after : List Move) : Told ((c.step m).run after) id n := by
  have due := pledge.due
  have es := effects_step h m
  have h' : Balanced (c.step m) := es.balanced h
  have t' : (c.step m).store.Truthful := es.preserve h t fun e h t => e.truthful h t
  refine run_induction h' (.inl ⟨due, ?_⟩) (fun e h told => e.told h told) after
  -- what has been told of is over, and this is not
  obtain ⟨event, hevent, notPast⟩ := Store.event?_of_due due
  rw [Store.told, List.filter_eq_nil_iff]
  intro other mem hother
  rw [hevent, decide_eq_true_eq] at hother
  exact notPast (t' other mem event hother)

/-- **Whoever is to be told is told once, of its own context or record, and not before the storage
is no longer kept alive.** Behind a handle there is always a storage that has not been released. -/
theorem told_once (moves : List Move) :
    let c := run {} moves
    (∀ before m after id n, moves = before ++ m :: after → Pledge (run {} before) m id n →
      (c.Keeps id → c.store.told n = []) ∧
        (¬ c.Keeps id → ∀ later, (c.run later).store.told n = [n])) ∧
      ∀ id root, ⟨some id⟩ ∈ c.handles → c.store.IsRootOf root id →
        (∃ st, c.store.storages.get? root = some st) ∧
          ∀ n, c.store.due? root = some n → c.store.told n = [] := by
  intro c
  have h : Balanced c := balanced_run balanced_empty moves
  have d : c.store.Descending := descending_run moves
  refine ⟨fun before m after id n hmoves pledge => ?_, fun id root mem hroot => ?_⟩
  · have told (later : List Move) : Told (c.run later) id n := by
      have hrun : c.run later = ((run {} before).step m).run (after ++ later) := by
        rw [show c = run {} moves from rfl, ← run_append, hmoves, run_append, run_append,
          run_cons, run_append]
      rw [hrun]
      exact told_run (balanced_run balanced_empty before) (truthful_run before) pledge _
    refine ⟨fun kept => ?_, fun lost later => ?_⟩
    · obtain ⟨st, live⟩ := h.live_of_keeps kept
      rcases told [] with ⟨_, nothing⟩ | ⟨past, _⟩
      · exact nothing
      · exact absurd (live.symm.trans past.1) (Option.some_ne_none st)
    · -- the storage is gone now, so it is gone later
      have past : c.store.Past (.release id) := by
        rcases told [] with ⟨due, _⟩ | ⟨past, _⟩
        · obtain ⟨st, live, _⟩ := Store.due?_eq_some due
          exact absurd ((keeps_iff_live h d).2 ⟨st, live⟩) lost
        · exact past
      have past' : (c.run later).store.Past (.release id) :=
        run_induction h past (fun e h past => e.past h past) later
      rcases told later with ⟨due, _⟩ | ⟨_, _, once⟩
      · obtain ⟨st, live, _⟩ := Store.due?_eq_some due
        exact absurd (live.symm.trans past'.1) (Option.some_ne_none st)
      · exact once
  · have live := h.live_of_keeps ((Keeps.handle mem).reaches hroot.1)
    refine ⟨live, fun n due => ?_⟩
    obtain ⟨event, hevent, notPast⟩ := Store.event?_of_due due
    rw [Store.told, List.filter_eq_nil_iff]
    intro other hother heq
    rw [hevent, decide_eq_true_eq] at heq
    exact notPast (truthful_run moves other hother event heq)

/-- An adopted tensor that is exported and taken in again keeps its owner waiting, who is told once
the tensor taken in is dropped. -/
theorem told_once_reimported :
    let d : Descriptor := ⟨⟨[1], [1]⟩, 0, .uint8, .cpu⟩
    let before : List Move := [.ofParts d ⟨4096, ⟨4096, 1⟩⟩]
    let m : Move := .adopt ⟨some 0⟩ (.closure "owner")
    let after : List Move := [.exportHandle ⟨some 0⟩, .drop ⟨some 0⟩, .importManaged 0]
    let n : Notice := .released 0 (.closure "owner")
    (run {} (before ++ m :: after)).store.told n = [] ∧
      (run {} (before ++ m :: (after ++ [.drop ⟨some 1⟩]))).store.told n = [n] := by
  intro d before m after n
  have pledge : Pledge (run {} before) m 0 n := .adopt (by decide +kernel) (by decide +kernel)
  have kept : (run {} (before ++ m :: after)).Keeps 0 :=
    .through (.handle (by decide +kernel : ⟨some 1⟩ ∈ (run {} (before ++ m :: after)).handles))
      (by decide +kernel)
  have lost : ¬ (run {} (before ++ m :: (after ++ [.drop ⟨some 1⟩]))).Keeps 0 := by
    intro kept
    have live := (balanced_run balanced_empty _).live_of_keeps kept
    rw [← Option.isSome_iff_exists] at live
    exact absurd live (by decide +kernel)
  have waiting := (told_once (before ++ m :: after)).1 before m after 0 n rfl pledge
  have released := (told_once (before ++ m :: (after ++ [.drop ⟨some 1⟩]))).1 before m
    (after ++ [.drop ⟨some 1⟩]) 0 n rfl pledge
  have once := released.2 lost []
  rw [run_nil] at once
  exact ⟨waiting.1 kept, once⟩

end Client

end SharedTensor
