import SharedTensor.Proofs.Client.Effect
import SharedTensor.Proofs.Tally

/-!
# Every reference is accounted for

The count of a storage is the number of its handles, of the views cut from it, of the records
exported from it and not yet deleted, and of raw references (`Balanced.references_eq`); a record is
in one place at a time (`Placed`). Every effect keeps these accounts in balance (`Effect.balanced`).
-/

namespace SharedTensor

namespace Store

/-! ## What a store refers to -/

/-- How many storages have the given release. -/
def releasing (s : Store) (release : Release) : Nat :=
  s.storages.tally fun st => st.release = release

/-- How many records are exports of a storage that have not been deleted. -/
def exportsOf (s : Store) (id : StorageId) : Nat :=
  s.records.tally fun record => record.exporter? = some id

theorem references_some (s : Store) (id : StorageId) :
    s.references ⟨some id⟩ = ((s.storages.get? id).map (·.references)).getD 0 := by
  cases h : s.storages.get? id <;> simp [references, h]

variable {s : Store} {id : StorageId} {st : Storage}

theorem references_of_get? (h : s.storages.get? id = some st) :
    s.references ⟨some id⟩ = st.references := by
  simp [references_some, h]

theorem references_retain (h : s.storages.get? id = some st) (i : StorageId) :
    (s.retain id).references ⟨some i⟩ = s.references ⟨some i⟩ + if i = id then 1 else 0 := by
  by_cases hi : i = id
  · subst hi
    simp [references_some, retain, h]
  · simp [references_some, retain, hi]

theorem references_lower (i : StorageId) :
    (s.lower id).references ⟨some i⟩ = s.references ⟨some i⟩ - if i = id then 1 else 0 := by
  by_cases hi : i = id
  · subst hi
    cases h : s.storages.get? i <;> simp [references_some, lower, h]
  · simp [references_some, lower, hi]

theorem references_forget (i : StorageId) :
    (s.forget id).references ⟨some i⟩ = if i = id then 0 else s.references ⟨some i⟩ := by
  by_cases hi : i = id <;> simp [references_some, forget, hi]

theorem references_bind (owner : Owner) (i : StorageId) :
    (s.bind id owner).references ⟨some i⟩ = s.references ⟨some i⟩ := by
  by_cases hi : i = id
  · subst hi
    cases h : s.storages.get? i <;> simp [references_some, bind, h]
  · simp [references_some, bind, hi]

theorem references_add (d : Descriptor) (data : Pointer) (release : Release) (i : StorageId) :
    (s.add d data release).2.references ⟨some i⟩ =
      s.references ⟨some i⟩ + if i = s.storages.next then 1 else 0 := by
  by_cases hi : i = s.storages.next
  · subst hi
    simp [references_some, add]
  · simp [references_some, add, hi]

@[simp] theorem releasing_retain (release : Release) :
    (s.retain id).releasing release = s.releasing release :=
  Table.tally_update fun _ _ => rfl

@[simp] theorem releasing_lower (release : Release) :
    (s.lower id).releasing release = s.releasing release :=
  Table.tally_update fun _ _ => rfl

theorem releasing_forget (h : s.storages.get? id = some st) (release : Release) :
    (s.forget id).releasing release + (if st.release = release then 1 else 0) =
      s.releasing release := by
  simpa [releasing, forget] using Table.tally_erase h fun st => st.release = release

theorem releasing_bind (h : s.storages.get? id = some st) (unowned : st.release = .unowned)
    (owner : Owner) (release : Release) (ne : release ≠ .unowned)
    (ne' : release ≠ .external owner) :
    (s.bind id owner).releasing release = s.releasing release := by
  refine Table.tally_update fun row hrow => ?_
  obtain rfl : st = row := Option.some.inj (h.symm.trans hrow)
  simp [unowned, ne.symm, ne'.symm]

@[simp] theorem releasing_add (d : Descriptor) (data : Pointer) (release release' : Release) :
    (s.add d data release).2.releasing release' =
      s.releasing release' + if release = release' then 1 else 0 := by
  simp [releasing, add]

@[simp] theorem exportsOf_retain (i : StorageId) : (s.retain id).exportsOf i = s.exportsOf i := rfl

@[simp] theorem exportsOf_lower (i : StorageId) : (s.lower id).exportsOf i = s.exportsOf i := rfl

@[simp] theorem exportsOf_forget (i : StorageId) : (s.forget id).exportsOf i = s.exportsOf i := rfl

@[simp] theorem exportsOf_bind (owner : Owner) (i : StorageId) :
    (s.bind id owner).exportsOf i = s.exportsOf i := rfl

@[simp] theorem exportsOf_add (d : Descriptor) (data : Pointer) (release : Release)
    (i : StorageId) : (s.add d data release).2.exportsOf i = s.exportsOf i := rfl

@[simp] theorem references_publish (record : Record) (i : StorageId) :
    (s.publish record).references ⟨some i⟩ = s.references ⟨some i⟩ := rfl

@[simp] theorem releasing_publish (record : Record) (release : Release) :
    (s.publish record).releasing release = s.releasing release := rfl

@[simp] theorem references_receive (record : Record) (i : StorageId) :
    (s.receive record).references ⟨some i⟩ = s.references ⟨some i⟩ := rfl

@[simp] theorem releasing_receive (record : Record) (release : Release) :
    (s.receive record).releasing release = s.releasing release := rfl

@[simp] theorem exportsOf_publish (header : Header) (i : StorageId) :
    (s.publish (header.exported id)).exportsOf i = s.exportsOf i + if id = i then 1 else 0 := by
  simp [exportsOf, publish, Header.exported, Record.exporter?]

@[simp] theorem exportsOf_receive (header : Header) (producer : String) (hasDeleter : Bool)
    (i : StorageId) :
    (s.receive (header.produced producer hasDeleter)).exportsOf i = s.exportsOf i := by
  simp [exportsOf, receive, Header.produced, Record.exporter?]

@[simp] theorem references_overwrite (r : RecordId) (header : Header) (i : StorageId) :
    (s.overwrite r header).references ⟨some i⟩ = s.references ⟨some i⟩ := rfl

@[simp] theorem releasing_overwrite (r : RecordId) (header : Header) (release : Release) :
    (s.overwrite r header).releasing release = s.releasing release := rfl

@[simp] theorem exportsOf_overwrite (r : RecordId) (header : Header) (i : StorageId) :
    (s.overwrite r header).exportsOf i = s.exportsOf i :=
  Table.tally_update fun _ _ => rfl

/-- Deleting a record takes it out of the store and leaves over the reference that it holds. -/
theorem deleteRecord_of_hasDeleter {r : RecordId} {record : Record}
    (h : s.records.get? r = some record) (hasDeleter : record.hasDeleter) :
    (s.deleteRecord r).1.records = s.records.erase r ∧
      (s.deleteRecord r).2 = record.exporter? := by
  cases ho : record.origin <;> simp [deleteRecord, h, hasDeleter, ho, Record.exporter?, tell]

theorem deleteRecord_of_not_hasDeleter {r : RecordId} {record : Record}
    (h : s.records.get? r = some record) (hasDeleter : ¬ record.hasDeleter) :
    s.deleteRecord r = (s, none) := by
  simp [deleteRecord, h, hasDeleter]

end Store

namespace Client

/-! ## Accounts of a client -/

/-- The references to a storage that are accounted for. -/
def holders (c : Client) (id : StorageId) : Nat :=
  c.handles.count ⟨some id⟩ + c.store.releasing (.view id) + c.store.exportsOf id +
    c.references.count id

/-- In how many places a record is. -/
def places (c : Client) (r : RecordId) : Nat :=
  c.managed.count r + c.raw.count r + c.store.releasing (.foreign r)

/-- What a storage of the given release holds, in the hands of the client. -/
def giveBack (c : Client) : Release → Client
  | .view parent => { c with references := parent ::ₘ c.references }
  | .foreign record => { c with raw := record ::ₘ c.raw }
  | _ => c

@[simp] theorem giveBack_store (c : Client) (release : Release) :
    (c.giveBack release).store = c.store := by
  cases release <;> rfl

theorem holders_giveBack (c : Client) (release : Release) (id : StorageId) :
    (c.giveBack release).holders id = c.holders id + if release = .view id then 1 else 0 := by
  cases release <;> simp [giveBack, holders, Multiset.count_cons, eq_comm]
  split <;> omega

theorem places_giveBack (c : Client) (release : Release) (r : RecordId) :
    (c.giveBack release).places r = c.places r + if release = .foreign r then 1 else 0 := by
  cases release <;> simp [giveBack, places, Multiset.count_cons, eq_comm]
  split <;> omega

@[simp] theorem owe_store (c : Client) (left : Option StorageId) :
    (c.owe left).store = c.store := by
  cases left <;> rfl

theorem holders_owe (c : Client) (left : Option StorageId) (id : StorageId) :
    (c.owe left).holders id = c.holders id + if left = some id then 1 else 0 := by
  cases left with
  | none => simp [owe]
  | some i =>
    simp only [owe, holders, Multiset.count_cons, Option.some.injEq, eq_comm]
    omega

theorem places_owe (c : Client) (left : Option StorageId) (r : RecordId) :
    (c.owe left).places r = c.places r := by
  cases left <;> rfl

theorem holders_add (c : Client) (d : Descriptor) (data : Pointer) (release : Release)
    (id : StorageId) :
    (c.add d data release).holders id =
      c.holders id + (if id = c.store.storages.next then 1 else 0) +
        if release = .view id then 1 else 0 := by
  simp only [add, holders, Store.releasing_add, Multiset.count_cons, Store.exportsOf_add,
    Handle.mk.injEq, Option.some.injEq]
  omega

theorem places_add (c : Client) (d : Descriptor) (data : Pointer) (release : Release)
    (r : RecordId) :
    (c.add d data release).places r = c.places r + if release = .foreign r then 1 else 0 := by
  simp only [add, places, Store.releasing_add]
  omega

theorem places_cons_raw (c : Client) (r i : RecordId) :
    { c with raw := r ::ₘ c.raw }.places i = c.places i + if i = r then 1 else 0 := by
  simp only [places, Multiset.count_cons]
  omega

/-- Every record is in one place as long as it can be deleted, and nothing else is in such a
place. -/
structure Placed (c : Client) : Prop where
  places_le : ∀ r, c.places r ≤ 1
  places_pos : ∀ r record, c.store.records.get? r = some record → record.hasDeleter →
    0 < c.places r
  exists_of_places : ∀ r, 0 < c.places r → ∃ record, c.store.records.get? r = some record

/-- Every reference is accounted for, and every record is where it belongs. -/
structure Balanced (c : Client) : Prop extends Placed c where
  references_eq : ∀ id, c.store.references ⟨some id⟩ = c.holders id
  references_pos : ∀ id st, c.store.storages.get? id = some st → 0 < st.references

theorem balanced_empty : Balanced {} where
  places_le r := by simp [places, Store.releasing]
  places_pos := by simp
  exists_of_places := by simp [places, Store.releasing]
  references_eq id := by
    simp [Store.references, holders, Store.releasing, Store.exportsOf]
  references_pos := by simp

variable {c c' : Client} {id : StorageId} {st : Storage}

/-- Nothing but the places of records matters. -/
theorem Placed.of_eq (h : Placed c) (places : ∀ r, c'.places r = c.places r)
    (records : c'.store.records = c.store.records) : Placed c' where
  places_le := by simpa only [places] using h.places_le
  places_pos := by simpa only [places, records] using h.places_pos
  exists_of_places := by simpa only [places, records] using h.exists_of_places

/-- A record that comes in is in one place. -/
theorem Placed.receive {record : Record} (h : Placed c)
    (places : ∀ r, c'.places r = c.places r + if r = c.store.records.next then 1 else 0)
    (records : c'.store.records = c.store.records.add record) : Placed c' := by
  have hnext : c.places c.store.records.next = 0 := by
    by_contra hpos
    obtain ⟨record, hr⟩ := h.exists_of_places _ (Nat.pos_of_ne_zero hpos)
    simp at hr
  refine ⟨fun r => ?_, fun r record hr hd => ?_, fun r hpos => ?_⟩
  · have := h.places_le r
    rw [places]
    split <;> simp_all
  · rw [places]
    rw [records, Table.get?_add] at hr
    split at hr
    · simp [*]
    · exact Nat.lt_add_right _ (h.places_pos r record hr hd)
  · rw [places] at hpos
    rw [records, Table.get?_add]
    split
    · exact ⟨_, rfl⟩
    · exact h.exists_of_places r (by simpa [*] using hpos)

/-- A record that goes leaves its place. -/
theorem Placed.erase {r : RecordId} (h : Placed { c with raw := r ::ₘ c.raw })
    (places : ∀ i, c'.places i = c.places i)
    (records : c'.store.records = c.store.records.erase r) : Placed c' := by
  have hr : c.places r = 0 := by
    have := h.places_le r
    simp only [places_cons_raw, if_true] at this
    omega
  refine ⟨fun i => ?_, fun i record hi hd => ?_, fun i hpos => ?_⟩
  · have := h.places_le i
    rw [places_cons_raw] at this
    rw [places]
    omega
  · rw [records, Table.get?_erase] at hi
    split at hi
    · cases hi
    · have := h.places_pos i record hi hd
      rw [places]
      simpa [places_cons_raw, *] using this
  · rw [places] at hpos
    have hne : i ≠ r := fun hi => by simp [hi, hr] at hpos
    rw [records, Table.get?_erase, if_neg hne]
    exact h.exists_of_places i (by rw [places_cons_raw]; omega)

/-- A record that cannot be deleted may be in no place at all. -/
theorem Placed.abandon {r : RecordId} {record : Record}
    (h : Placed { c with raw := r ::ₘ c.raw }) (hr : c.store.records.get? r = some record)
    (hd : ¬ record.hasDeleter) : Placed c := by
  refine ⟨fun i => ?_, fun i other hi ho => ?_, fun i hpos => ?_⟩
  · have := h.places_le i
    rw [places_cons_raw] at this
    omega
  · have hne : i ≠ r := fun hir => hd (Option.some.inj (hr.symm.trans (hir ▸ hi)) ▸ ho)
    have := h.places_pos i other hi ho
    rwa [places_cons_raw, if_neg hne] at this
  · exact h.exists_of_places i (by rw [places_cons_raw]; omega)

namespace Balanced

/-- Nothing but storages, records, holders and places matters. -/
theorem of_eq (h : Balanced c) (holders : ∀ id, c'.holders id = c.holders id)
    (places : ∀ r, c'.places r = c.places r) (storages : c'.store.storages = c.store.storages)
    (records : c'.store.records = c.store.records) : Balanced c' where
  toPlaced := h.toPlaced.of_eq places records
  references_eq id := by
    rw [holders, ← h.references_eq]
    simp only [Store.references_some, storages]
  references_pos := by simpa only [storages] using h.references_pos

theorem retain (h : Balanced c) (live : c.store.storages.get? id = some st) :
    Balanced { c with store := c.store.retain id, references := id ::ₘ c.references } where
  toPlaced := h.toPlaced.of_eq (by simp [places]) rfl
  references_eq i := by
    have := h.references_eq i
    simp only [holders, Store.references_retain live, Store.releasing_retain,
      Store.exportsOf_retain, Multiset.count_cons] at this ⊢
    omega
  references_pos i st' hi := by
    by_cases hid : i = id
    · subst hid
      obtain rfl : { st with references := st.references + 1 } = st' := by
        simpa [Store.retain, live] using hi
      exact Nat.succ_pos _
    · exact h.references_pos i st' (by simpa [Store.retain, hid] using hi)

theorem lower (h : Balanced { c with references := id ::ₘ c.references })
    (live : c.store.storages.get? id = some st) (many : 1 < st.references) :
    Balanced { c with store := c.store.lower id } where
  toPlaced := h.toPlaced.of_eq (by simp [places]) rfl
  references_eq i := by
    have := h.references_eq i
    simp only [holders, Store.references_lower, Store.releasing_lower,
      Store.exportsOf_lower, Multiset.count_cons] at this ⊢
    omega
  references_pos i st' hi := by
    by_cases hid : i = id
    · subst hid
      obtain rfl : { st with references := st.references - 1 } = st' := by
        simpa [Store.lower, live] using hi
      exact Nat.sub_pos_of_lt many
    · exact h.references_pos i st' (by simpa [Store.lower, hid] using hi)

/-- A new storage takes over what it will give back. -/
theorem add (release : Release) (h : Balanced (c.giveBack release)) (d : Descriptor)
    (data : Pointer) : Balanced (c.add d data release) where
  toPlaced := h.toPlaced.of_eq (fun r => by rw [places_add, places_giveBack])
    (by rw [giveBack_store]; rfl)
  references_eq i := by
    have := h.references_eq i
    rw [giveBack_store, holders_giveBack] at this
    rw [holders_add, Client.add, Store.references_add, this]
    omega
  references_pos i st hi := by
    rw [Client.add, Store.add, Table.get?_add] at hi
    split at hi
    · obtain rfl := Option.some.inj hi
      exact Nat.one_pos
    · exact h.references_pos i st (by rwa [giveBack_store])

/-- A storage that goes gives back what it held. -/
theorem forget (h : Balanced { c with references := id ::ₘ c.references })
    (live : c.store.storages.get? id = some st) (last : ¬ 1 < st.references) :
    Balanced ({ c with store := c.store.forget id }.giveBack st.release) := by
  have hplaces : ∀ r, ({ c with store := c.store.forget id }.giveBack st.release).places r =
      c.places r := fun r => by
    have := Store.releasing_forget live (.foreign r)
    rw [places_giveBack]
    simp only [places]
    omega
  have hholders : ∀ i, ({ c with store := c.store.forget id }.giveBack st.release).holders i =
      c.holders i := fun i => by
    have := Store.releasing_forget live (.view i)
    rw [holders_giveBack]
    simp only [holders, Store.exportsOf_forget]
    omega
  refine ⟨h.toPlaced.of_eq hplaces (by rw [giveBack_store]; rfl), fun i => ?_, fun i st' hi => ?_⟩
  · have := h.references_eq i
    rw [hholders, giveBack_store, Store.references_forget]
    simp only [holders, Multiset.count_cons] at this ⊢
    by_cases hi : i = id
    · subst hi
      rw [Store.references_of_get? live] at this
      simp only [if_true] at this ⊢
      omega
    · simpa [hi] using this
  · rw [giveBack_store, Store.forget, Table.get?_erase] at hi
    split at hi
    · cases hi
    · exact h.references_pos i st' hi

/-- A record that is deleted gives back the reference that it held. -/
theorem delete {r : RecordId} (h : Balanced { c with raw := r ::ₘ c.raw }) :
    Balanced ({ c with store := (c.store.deleteRecord r).1 }.owe (c.store.deleteRecord r).2) := by
  obtain ⟨record, hr⟩ := h.exists_of_places r (by
    simp only [places, Multiset.count_cons_self]; omega)
  by_cases hd : record.hasDeleter
  · obtain ⟨hrecords, hleft⟩ := Store.deleteRecord_of_hasDeleter hr hd
    have hstorages := c.store.deleteRecord_storages r
    refine ⟨h.toPlaced.erase (fun i => ?_) (by rw [owe_store]; exact hrecords), fun i => ?_, ?_⟩
    · rw [places_owe]
      simp only [places, Store.releasing, hstorages]
    · have := h.references_eq i
      have hexports := Table.tally_erase hr fun record => record.exporter? = some i
      simp only [holders, Store.references_some, Store.releasing, Store.exportsOf] at this
      rw [holders_owe, owe_store, hleft]
      simp only [holders, Store.references_some, Store.releasing, Store.exportsOf, hstorages,
        hrecords]
      simp only [decide_eq_true_eq] at hexports
      omega
    · rw [owe_store]
      simpa only [hstorages] using h.references_pos
  · rw [Store.deleteRecord_of_not_hasDeleter hr hd]
    exact ⟨h.toPlaced.abandon hr hd, h.references_eq, h.references_pos⟩

theorem bind (h : Balanced c) (live : c.store.storages.get? id = some st)
    (unowned : st.release = .unowned) (owner : Owner) :
    Balanced { c with store := c.store.bind id owner } where
  toPlaced := h.toPlaced.of_eq (fun r => by
    simp only [places, Store.releasing_bind live unowned owner (.foreign r) nofun nofun])
    rfl
  references_eq i := by
    have := h.references_eq i
    simpa only [holders, Store.references_bind,
      Store.releasing_bind live unowned owner (.view i) nofun nofun,
      Store.exportsOf_bind] using this
  references_pos i st' hi := by
    rw [Store.bind, Table.get?_update] at hi
    split at hi
    · obtain ⟨st, hst, rfl⟩ := Option.map_eq_some_iff.1 hi
      exact h.references_pos i st hst
    · exact h.references_pos i st' hi

theorem publish (h : Balanced { c with references := id ::ₘ c.references }) (header : Header) :
    Balanced { c with
      store := c.store.publish (header.exported id)
      managed := c.store.records.next ::ₘ c.managed } where
  toPlaced := h.toPlaced.receive (fun r => by
    simp only [places, Multiset.count_cons, Store.releasing_publish]
    omega) rfl
  references_eq i := by
    have := h.references_eq i
    simp only [holders, Multiset.count_cons, Store.references_publish, Store.releasing_publish,
      Store.exportsOf_publish, eq_comm] at this ⊢
    omega
  references_pos := h.references_pos

theorem receive (h : Balanced c) (header : Header) (producer : String) (hasDeleter : Bool) :
    Balanced { c with
      store := c.store.receive (header.produced producer hasDeleter)
      raw := c.store.records.next ::ₘ c.raw } where
  toPlaced := h.toPlaced.receive (fun r => by
    simp only [places, Multiset.count_cons, Store.releasing_receive]
    omega) rfl
  references_eq i := by
    simpa only [holders, Store.references_receive, Store.releasing_receive,
      Store.exportsOf_receive] using h.references_eq i
  references_pos := h.references_pos

theorem overwrite (h : Balanced c) (r : RecordId) (header : Header) :
    Balanced { c with store := c.store.overwrite r header } where
  places_le := h.places_le
  places_pos i record hi hd := by
    rw [Store.overwrite, Table.get?_update] at hi
    split at hi
    · obtain ⟨old, hold, rfl⟩ := Option.map_eq_some_iff.1 hi
      exact h.places_pos i old hold hd
    · exact h.places_pos i record hi hd
  exists_of_places i hpos := by
    obtain ⟨record, hr⟩ := h.exists_of_places i hpos
    rw [Store.overwrite, Table.get?_update, hr]
    split <;> exact ⟨_, rfl⟩
  references_eq i := by
    simpa only [holders, Store.references_overwrite, Store.releasing_overwrite,
      Store.exportsOf_overwrite] using h.references_eq i
  references_pos := h.references_pos

/-- A storage that is released gives back what it held, and a record that it held is deleted. -/
theorem retire (h : Balanced { c with references := id ::ₘ c.references })
    (live : c.store.storages.get? id = some st) (last : ¬ 1 < st.references) :
    Balanced ({ c with store := (c.store.retire id st).1 }.owe (c.store.retire id st).2) := by
  have hforget := h.forget live last
  change Balanced ({ c with store := ((c.store.forget id).runRelease id st.release).1 }.owe
    ((c.store.forget id).runRelease id st.release).2)
  cases hr : st.release with
  | owned block =>
    rw [hr] at hforget
    exact hforget.of_eq (fun _ => rfl) (fun _ => rfl) rfl rfl
  | unowned =>
    rw [hr] at hforget
    exact hforget
  | view parent =>
    rw [hr] at hforget
    exact hforget
  | foreign r =>
    rw [hr] at hforget
    exact delete (c := { c with store := c.store.forget id }) hforget
  | external owner =>
    rw [hr] at hforget
    exact hforget.of_eq (fun _ => rfl) (fun _ => rfl) rfl rfl

end Balanced

/-- **Every effect keeps the accounts in balance.** -/
theorem Effect.balanced (e : Effect c c') (h : Balanced c) : Balanced c' := by
  cases e with
  | settings | host | warn => exact h.of_eq (fun _ => rfl) (fun _ => rfl) rfl rfl
  | gainEmpty | loseEmpty | toHandle | toReference =>
    refine h.of_eq (fun i => ?_) (fun _ => rfl) rfl rfl
    simp [holders, Multiset.count_cons]
    try omega
  | toRaw | toManaged =>
    refine h.of_eq (fun _ => rfl) (fun i => ?_) rfl rfl
    simp only [places, Multiset.count_cons]
    omega
  | retain live => exact h.retain live
  | lower live many => exact h.lower live many
  | retire live last => exact h.retire live last
  | @allocate _ _ block host =>
    exact Balanced.add (c := { c with store := { c.store with host } }) (.owned block)
      (h.of_eq (fun _ => rfl) (fun _ => rfl) rfl rfl) _ _
  | borrow => exact Balanced.add .unowned h _ _
  | view _ _ id => exact Balanced.add (.view id) h _ _
  | imported _ _ r => exact Balanced.add (.foreign r) h _ _
  | adopt live _ unowned owner => exact h.bind live unowned owner
  | exported _ header => exact h.publish header
  | produced header producer hasDeleter => exact h.receive header producer hasDeleter
  | overwrite r header => exact h.overwrite r header
  | delete => exact h.delete

end Client

end SharedTensor
