import SharedTensor.Proofs.Client.Release
import SharedTensor.Proofs.Drop
import SharedTensor.Proofs.Export
import SharedTensor.Proofs.Host

/-!
# What turns change

A client shares its records with others, who may set the deleter or the context of a record to null
(`Turn.strip`). A reference that such a record has held is never given back, so the counts need no
longer agree with what is held. What a turn does to the store is still a chain of small changes
(`Client.Change`), and each of them tells what has been checked before: a storage is given to an
owner only by a move that is pledged to tell the owner of the release, and a new storage has passed
the checks of the constructor that makes it. This is said once (`Client.changes_turn`), together
with what it means for the storages and the records that are found afterwards
(`Change.storage_cases`, `Change.record_cases`).
-/

namespace SharedTensor

/-- The record, with its deleter or its context set to null. -/
def Record.strip (record : Record) (deleter context : Bool) : Record :=
  { record with
    hasDeleter := record.hasDeleter && !deleter
    context := if context then none else record.context }

/-- Sets the deleter or the context of a record to null. -/
def Store.strip (s : Store) (r : RecordId) (deleter context : Bool) : Store :=
  { s with records := s.records.update r (·.strip deleter context) }

namespace Client

/-- What can happen next: the client moves, or other code strips a record. -/
inductive Turn
  | move (m : Move)
  | strip (r : RecordId) (deleter context : Bool)

/-- The client after a turn. -/
def turn (c : Client) : Turn → Client
  | .move m => c.step m
  | .strip r deleter context => { c with store := c.store.strip r deleter context }

/-- The client after a list of turns. -/
def play (c : Client) (turns : List Turn) : Client :=
  turns.foldl turn c

@[simp] theorem play_nil (c : Client) : c.play [] = c := rfl

@[simp] theorem play_cons (c : Client) (t : Turn) (turns : List Turn) :
    c.play (t :: turns) = (c.turn t).play turns := rfl

theorem play_append (c : Client) (before after : List Turn) :
    c.play (before ++ after) = (c.play before).play after :=
  List.foldl_append

/-- Moves alone are turns. -/
theorem play_moves (c : Client) (moves : List Move) : c.play (moves.map .move) = c.run moves :=
  List.foldl_map

/-! ## The small changes -/

/-- The small changes of a store that a turn of the client is made of. -/
inductive Change (c : Client) (t : Turn) : Store → Store → Prop
  | retain {s : Store} (id : StorageId) : Change c t s (s.retain id)
  | lower {s : Store} (id : StorageId) : Change c t s (s.lower id)
  | retire {s : Store} {id : StorageId} {st : Storage} (live : s.storages.get? id = some st) :
      Change c t s (s.retire id st).1
  | delete {s : Store} (r : RecordId) : Change c t s (s.deleteRecord r).1
  | warn {s : Store} (r : RecordId) : Change c t s (s.tell (.undeletable r))
  /-- Memory changes, but no block is handed out at the null address. -/
  | host {s : Store} {host : Host} (frontier : 0 < s.host.frontier → 0 < host.frontier) :
      Change c t s { s with host }
  | allocate {s : Store} {d : Descriptor} {block : Block} {host : Host}
      (ok : s.freshBlock c.config d = .ok (block, host)) (memory : Memory) :
      Change c t s
        ({ s with host := { host with memory } }.add d (.toStart block) (.owned block)).2
  | borrow {s : Store} {d : Descriptor} {data : Pointer} (valid : d.validate = .ok ())
      (filled : data.isNull → 0 < d.count → c.config.safety.checkNullData = false) :
      Change c t s (s.add d data .unowned).2
  | view {s : Store} {id : StorageId} {source : Storage} {request : ViewRequest}
      (asked : t = .move (.view ⟨some id⟩ request)) (live : s.storages.get? id = some source)
      (valid : (request.descriptor source.descriptor).validate = .ok ()) :
      Change c t s (s.add (request.descriptor source.descriptor) (request.data.getD source.data)
        (.view id)).2
  | imported {s : Store} {r : RecordId} {record : Record} {d : Descriptor}
      (found : s.records.get? r = some record) (ok : Store.importable c.config record = .ok d) :
      Change c t s (s.add d record.data (.foreign r)).2
  | bind {s : Store} {id : StorageId} {st : Storage} {m : Move} {owner : Owner}
      (asked : t = .move m) (pledge : Pledge c m id (.released id owner))
      (live : s.storages.get? id = some st) (unowned : st.release = .unowned) :
      Change c t s (s.bind id owner)
  | publish {s : Store} {id : StorageId} {st : Storage} (live : s.storages.get? id = some st)
      (rank : st.descriptor.rank < 2 ^ 31) :
      Change c t s (s.publish (Store.exportedRecord c.config id st))
  | receive {s : Store} (header : Header) (producer : String) (hasDeleter : Bool) :
      Change c t s (s.receive (header.produced producer hasDeleter))
  | overwrite {s : Store} {r : RecordId} {header : Header}
      (asked : t = .move (.overwrite r header)) : Change c t s (s.overwrite r header)
  | strip {s : Store} {r : RecordId} {deleter context : Bool}
      (asked : t = .strip r deleter context) : Change c t s (s.strip r deleter context)

/-- A chain of small changes. -/
abbrev Changes (c : Client) (t : Turn) : Store → Store → Prop :=
  Relation.ReflTransGen (Change c t)

section Turns

variable {c : Client} {t : Turn} {s s' : Store} {handle : Handle}

/-- What every small change preserves is preserved by a chain of them. -/
theorem Changes.preserve {P : Store → Prop} (changes : Changes c t s s')
    (step : ∀ s s', Change c t s s' → P s → P s') (start : P s) : P s' := by
  induction changes with
  | refl => exact start
  | tail _ last ih => exact step _ _ last ih

theorem changes_dropAll (s : Store) (ids : List StorageId) : Changes c t s (s.dropAll ids) :=
  Store.dropAll_preserves (P := Changes c t s) (fun _ id changes => changes.tail (.lower id))
    (fun _ _ _ live changes => changes.tail (.retire live)) .refl ids

theorem changes_dropRecord (s : Store) (r : RecordId) : Changes c t s (s.dropRecord r) :=
  .head (.delete r) (changes_dropAll _ _)

theorem changes_allocate {d : Descriptor} (ok : s.allocate c.config d = .ok (handle, s')) :
    Changes c t s s' := by
  unfold Store.allocate at ok
  split at ok
  · cases ok
  · next block host fresh =>
    cases ok
    exact .single (.allocate fresh host.memory)

theorem changes_ofList {e : Scalar} {data : List e.Value} {shape : List Int64}
    (ok : s.ofList c.config e data shape = .ok (handle, s')) : Changes c t s s' := by
  unfold Store.ofList at ok
  split at ok
  · cases ok
  · split at ok
    · cases ok
    · split at ok
      · cases ok
      · next block host fresh =>
        cases ok
        exact .single (.allocate fresh _)

theorem changes_ofParts {d : Descriptor} {data : Pointer}
    (ok : s.ofParts c.config d data = .ok (handle, s')) : Changes c t s s' := by
  obtain ⟨valid, made⟩ := Store.ofParts_eq_ok ok
  cases made
  refine .single (.borrow valid fun null count => ?_)
  unfold Store.ofParts at ok
  rw [valid] at ok
  by_contra check
  rw [if_pos ⟨null, count, by simpa using check⟩] at ok
  cases ok

theorem changes_view {id : StorageId} {request : ViewRequest}
    (asked : t = .move (.view ⟨some id⟩ request))
    (ok : s.view c.config ⟨some id⟩ request = .ok (handle, s')) : Changes c t s s' := by
  obtain ⟨i, source, hid, live, valid, made⟩ := Store.view_eq_ok ok
  obtain rfl : id = i := by simpa using hid
  cases made
  -- the source has a reference more by now, and is otherwise what it was
  have last := Change.view (c := c) asked (Store.get?_retain_of_live live) valid
  exact .head (.retain id) (.single last)

theorem changes_adopt {m : Move} {owner : Owner} (asked : t = .move m)
    (pledge : ∀ id, handle = ⟨some id⟩ → Pledge c m id (.released id owner))
    (ok : s.adopt handle owner = .ok s') : Changes c t s s' := by
  obtain ⟨id, st, rfl, live, -, unowned, rfl⟩ := Store.adopt_eq_ok ok
  exact .single (.bind asked (pledge id rfl) live unowned)

theorem changes_exportRecord {r : RecordId}
    (ok : s.exportRecord c.config handle = .ok (r, s')) : Changes c t s s' := by
  obtain ⟨id, st, -, live, rank, -, rfl⟩ := Store.afterExport_of_ok ok
  have last := Change.publish (c := c) (t := t) (Store.get?_retain_of_live live) rank
  exact .head (.retain id) (.single last)

theorem changes_importRecord (managed raw : Multiset RecordId) (r : RecordId) :
    Changes c t c.store ({ c with managed, raw }.importRecord r).store := by
  cases found : c.store.records.get? r with
  | none =>
    rw [Client.importRecord, Store.importRecord, found]
  | some record =>
    rw [Client.importRecord]
    rcases c.store.importRecord_cases (c := c.config) found with ⟨f, fails⟩ | ⟨d, importable, ok⟩
    · rw [fails]
      exact changes_dropRecord c.store r
    · rw [ok]
      change Changes c t c.store ((c.store.announce r record).add d record.data (.foreign r)).2
      rw [Store.announce]
      split
      · exact .single (.imported found importable)
      · exact .head (.warn r) (.single (.imported found importable))

theorem changes_settle {result : Except Fault (Handle × Store)}
    (made : ∀ handle s', result = .ok (handle, s') → Changes c t c.store s') :
    Changes c t c.store (c.settle result).store := by
  cases result with
  | error f => exact .refl
  | ok fresh => exact made fresh.1 fresh.2 rfl

/-- A move is a chain of small changes. -/
theorem changes_step (c : Client) (m : Move) : Changes c (.move m) c.store (c.step m).store := by
  unfold Client.step
  split
  case isFalse => exact .refl
  case isTrue permitted =>
    cases m with
    | default | register | intoRaw | fromRaw | configure => exact .refl
    | allocate d => exact changes_settle fun handle s' ok => changes_allocate ok
    | empty shape e device =>
      refine changes_settle fun handle s' ok => ?_
      obtain ⟨d, hd⟩ := Store.empty_eq_ok ok
      exact changes_allocate hd
    | ofList e data shape => exact changes_settle fun handle s' ok => changes_ofList ok
    | ofParts d data => exact changes_settle fun handle s' ok => changes_ofParts ok
    | clone handle =>
      obtain ⟨target⟩ := handle
      cases target with
      | none => exact .refl
      | some id => exact .single (.retain id)
    | view handle request =>
      refine changes_settle fun fresh s' ok => ?_
      obtain ⟨id, -, rfl, -⟩ := Store.view_eq_ok ok
      exact changes_view rfl ok
    | drop handle => exact changes_dropAll _ _
    | adopt handle owner =>
      cases ok : c.store.adopt handle owner with
      | error f =>
        rw [act, ok]
        exact .refl
      | ok s' =>
        have pledge (id : StorageId) (hid : handle = ⟨some id⟩) :
            Pledge c (.adopt handle owner) id (.released id owner) := by
          subst hid
          exact .adopt (of_decide_eq_true permitted) (by rw [ok]; rfl)
        rw [act, ok]
        exact changes_adopt rfl pledge ok
    | adoptNamed handle name context =>
      cases ok : c.store.adoptNamed c.deleters handle name context with
      | error f =>
        rw [act, ok]
        exact .refl
      | ok s' =>
        obtain ⟨callback, registered, hadopt⟩ := Store.adoptNamed_eq_ok ok
        have pledge (id : StorageId) (hid : handle = ⟨some id⟩) :
            Pledge c (.adoptNamed handle name context) id
              (.released id (.callback callback context)) := by
          subst hid
          exact .adoptNamed (of_decide_eq_true permitted) registered (by rw [ok]; rfl)
        rw [act, ok]
        exact changes_adopt rfl pledge hadopt
    | exportHandle handle =>
      cases ok : c.store.exportRecord c.config handle with
      | error f =>
        rw [act, ok]
        exact .refl
      | ok made =>
        rw [act, ok]
        exact changes_exportRecord ok
    | importManaged r => exact changes_importRecord (c.managed.erase r) c.raw r
    | importRaw r => exact changes_importRecord c.managed (c.raw.erase r) r
    | dropManaged r | delete r => exact changes_dropRecord _ r
    | produce header producer hasDeleter => exact .single (.receive header producer hasDeleter)
    | overwrite r header => exact .single (.overwrite rfl)
    | retain id => exact .single (.retain id)
    | dropReference id => exact changes_dropAll _ [id]
    | place size alignment =>
      rw [act]
      split
      · exact .refl
      · next placed => exact .single (.host fun _ => Host.frontier_pos_of_place placed)
    | write memory => exact .single (.host id)

/-- **A turn is a chain of small changes.** -/
theorem changes_turn (c : Client) (t : Turn) : Changes c t c.store (c.turn t).store := by
  cases t with
  | move m => exact changes_step c m
  | strip r deleter context => exact .single (.strip rfl)

/-- What every small change preserves holds after every list of turns. -/
theorem play_induction {P : Store → Prop} (step : ∀ c t s s', Change c t s s' → P s → P s')
    (start : P c.store) (turns : List Turn) : P (c.play turns).store := by
  induction turns generalizing c with
  | nil => exact start
  | cons t turns ih => exact ih ((changes_turn c t).preserve (step c t) start)

end Turns

/-! ## What is found afterwards -/

/-- What a new storage is like. -/
inductive Made (c : Client) (t : Turn) (s : Store) : Storage → Prop
  | owned {d : Descriptor} {block : Block} {host : Host}
      (ok : s.freshBlock c.config d = .ok (block, host)) :
      Made c t s (s.fresh d (.toStart block) (.owned block))
  | unowned {d : Descriptor} {data : Pointer} (valid : d.validate = .ok ())
      (filled : data.isNull → 0 < d.count → c.config.safety.checkNullData = false) :
      Made c t s (s.fresh d data .unowned)
  | view {id : StorageId} {source : Storage} {request : ViewRequest}
      (asked : t = .move (.view ⟨some id⟩ request)) (live : s.storages.get? id = some source)
      (valid : (request.descriptor source.descriptor).validate = .ok ()) :
      Made c t s (s.fresh (request.descriptor source.descriptor)
        (request.data.getD source.data) (.view id))
  | foreign {r : RecordId} {record : Record} {d : Descriptor}
      (found : s.records.get? r = some record) (ok : Store.importable c.config record = .ok d) :
      Made c t s (s.fresh d record.data (.foreign r))

/-- What a new record is like. -/
inductive Issued (c : Client) (s : Store) : Record → Prop
  | exported {id : StorageId} {st : Storage} (live : s.storages.get? id = some st)
      (rank : st.descriptor.rank < 2 ^ 31) : Issued c s (Store.exportedRecord c.config id st)
  | produced (header : Header) (producer : String) (hasDeleter : Bool) :
      Issued c s (header.produced producer hasDeleter)

variable {c : Client} {t : Turn} {s s' : Store}

/-- A new storage has a valid descriptor. -/
theorem Made.valid {st : Storage} (made : Made c t s st) : st.descriptor.validate = .ok () := by
  cases made with
  | owned ok => exact (Store.freshBlock_eq_ok ok).1
  | unowned valid => exact valid
  | view _ _ valid => exact valid
  | foreign _ ok => exact Store.importable_eq_ok ok

/-- **A storage found after a small change was there before, or is new.** One that was there has got
an owner only by a move that pledges to tell it. -/
theorem Change.storage_cases (e : Change c t s s') {id : StorageId} {st' : Storage}
    (found : s'.storages.get? id = some st') :
    (∃ st, s.storages.get? id = some st ∧ st.Kept st' ∧
      (st'.release = st.release ∨
        ∃ m owner, t = .move m ∧ Pledge c m id (.released id owner))) ∨
      id = s.storages.next ∧ Made c t s st' := by
  -- the storages are those of before and the one that has been added
  have added {s₀ : Store} {d : Descriptor} {data : Pointer} {release : Release}
      (same : s₀.storages = s.storages) (made : Made c t s (s₀.fresh d data release))
      (found : (s₀.add d data release).2.storages.get? id = some st') :
      (∃ st, s.storages.get? id = some st ∧ st.Kept st' ∧
        (st'.release = st.release ∨
          ∃ m owner, t = .move m ∧ Pledge c m id (.released id owner))) ∨
        id = s.storages.next ∧ Made c t s st' := by
    rw [Store.get?_add, same] at found
    split at found
    · next hid =>
      obtain rfl := Option.some.inj found
      exact .inr ⟨hid, made⟩
    · exact .inl ⟨st', found, .refl st', .inl rfl⟩
  cases e with
  | host | warn | publish | receive | overwrite | strip =>
    exact .inl ⟨st', found, .refl st', .inl rfl⟩
  | retain i | lower i =>
    simp only [Store.retain, Store.lower, Table.get?_update] at found
    split at found
    · obtain ⟨st, live, rfl⟩ := Option.map_eq_some_iff.1 found
      exact .inl ⟨st, live, ⟨rfl, rfl, rfl, .inl rfl⟩, .inl rfl⟩
    · exact .inl ⟨st', found, .refl st', .inl rfl⟩
  | retire live =>
    rw [Store.get?_retire] at found
    split at found
    · cases found
    · exact .inl ⟨st', found, .refl st', .inl rfl⟩
  | delete r =>
    exact .inl ⟨st', s.deleteRecord_storages r ▸ found, .refl st', .inl rfl⟩
  | @bind i st m owner asked pledge live unowned =>
    rw [Store.bind, Table.get?_update] at found
    split at found
    · next hid =>
      subst hid
      rw [live] at found
      obtain rfl := Option.some.inj found
      exact .inl ⟨st, live, ⟨rfl, rfl, rfl, .inr ⟨unowned, owner, rfl⟩⟩,
        .inr ⟨m, owner, asked, pledge⟩⟩
    · exact .inl ⟨st', found, .refl st', .inl rfl⟩
  | allocate ok memory => exact added rfl (.owned ok) found
  | borrow valid filled => exact added rfl (.unowned valid filled) found
  | view asked live valid => exact added rfl (.view asked live valid) found
  | imported hr ok => exact added rfl (.foreign hr ok) found

/-- **A record found after a small change was there before, or is new.** What it says is changed only
by a turn that does just that. -/
theorem Change.record_cases (e : Change c t s s') {r : RecordId} {record' : Record}
    (found : s'.records.get? r = some record') :
    (∃ record, s.records.get? r = some record ∧
      (record' = record ∨
        (∃ header, t = .move (.overwrite r header) ∧ record' = { record with toHeader := header }) ∨
        ∃ deleter context, t = .strip r deleter context ∧
          record' = record.strip deleter context)) ∨
      r = s.records.next ∧ Issued c s record' := by
  cases e with
  | retain | lower | warn | host | allocate | borrow | view | imported | bind =>
    exact .inl ⟨record', found, .inl rfl⟩
  | retire live => exact .inl ⟨record', Store.get?_records_retire _ _ _ r found, .inl rfl⟩
  | delete i => exact .inl ⟨record', Store.get?_deleteRecord _ _ r found, .inl rfl⟩
  | publish live rank =>
    rw [Store.publish, Table.get?_add] at found
    split at found
    · next hr =>
      obtain rfl := Option.some.inj found
      exact .inr ⟨hr, .exported live rank⟩
    · exact .inl ⟨record', found, .inl rfl⟩
  | receive header producer hasDeleter =>
    rw [Store.receive, Table.get?_add] at found
    split at found
    · next hr =>
      obtain rfl := Option.some.inj found
      exact .inr ⟨hr, .produced header producer hasDeleter⟩
    · exact .inl ⟨record', found, .inl rfl⟩
  | @overwrite i header asked =>
    rw [Store.overwrite, Table.get?_update] at found
    split at found
    · next hr =>
      subst hr
      obtain ⟨record, hrecord, rfl⟩ := Option.map_eq_some_iff.1 found
      exact .inl ⟨record, hrecord, .inr (.inl ⟨header, asked, rfl⟩)⟩
    · exact .inl ⟨record', found, .inl rfl⟩
  | @strip i deleter context asked =>
    rw [Store.strip, Table.get?_update] at found
    split at found
    · next hr =>
      subst hr
      obtain ⟨record, hrecord, rfl⟩ := Option.map_eq_some_iff.1 found
      exact .inl ⟨record, hrecord, .inr (.inr ⟨deleter, context, asked, rfl⟩)⟩
    · exact .inl ⟨record', found, .inl rfl⟩

/-- No number is given out twice. -/
theorem Change.next_le (e : Change c t s s') :
    s.storages.next ≤ s'.storages.next ∧ s.records.next ≤ s'.records.next := by
  cases e with
  | warn | host => exact ⟨le_rfl, le_rfl⟩
  | retain | lower | bind => exact ⟨(Table.next_update ..).ge, le_rfl⟩
  | allocate | borrow | view | imported =>
    exact ⟨(Nat.le_succ _).trans (Table.next_add ..).ge, le_rfl⟩
  | publish | receive => exact ⟨le_rfl, (Nat.le_succ _).trans (Table.next_add ..).ge⟩
  | overwrite | strip => exact ⟨le_rfl, (Table.next_update ..).ge⟩
  | retire =>
    rw [Store.retire_storages, Table.next_erase, Store.next_retire]
    exact ⟨le_rfl, le_rfl⟩
  | delete r =>
    rw [Store.deleteRecord_storages, Store.next_deleteRecord]
    exact ⟨le_rfl, le_rfl⟩

end Client

end SharedTensor
