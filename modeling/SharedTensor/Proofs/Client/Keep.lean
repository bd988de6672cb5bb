import SharedTensor.Proofs.Client.Storage

/-!
# Who keeps a storage alive

A handle, a raw reference or an export in the client's hands keeps a storage alive, and a storage
that is alive keeps alive the one that it is a view or an export of (`Client.Keeps`). Links lead to
older storages only (`Descending`), so going up from a live storage one comes to something that the
client holds: a storage is live if and only if it is kept alive (`keeps_iff_live`).
-/

namespace SharedTensor

namespace Store

/-- Does a chain of links lead from one storage to the other? -/
def Reaches (s : Store) : StorageId → StorageId → Prop :=
  Relation.ReflTransGen fun i j => s.link? i = some j

/-- Is it the storage at which the chain of links from a storage ends? -/
def IsRootOf (s : Store) (root id : StorageId) : Prop :=
  s.Reaches id root ∧ s.link? root = none

/-- Every link leads to an older storage. -/
def Descending (s : Store) : Prop :=
  ∀ i j : Nat, s.link? i = some j → j < i

variable {s : Store}

/-- From every storage the links lead to one that has none. -/
theorem Descending.exists_root (h : s.Descending) (id : StorageId) :
    ∃ root, s.IsRootOf root id := by
  induction id using Nat.strongRecOn with
  | ind id ih =>
    cases hl : s.link? id with
    | none => exact ⟨id, .refl, hl⟩
    | some other =>
      obtain ⟨root, hreach, hroot⟩ := ih other (h id other hl)
      exact ⟨root, .head hl hreach, hroot⟩

end Store

namespace Client

variable {c c' : Client} {id : StorageId}

/-- What the client holds keeps the storage alive, be it from storage to storage. -/
inductive Keeps (c : Client) : StorageId → Prop
  | handle {id : StorageId} (mem : ⟨some id⟩ ∈ c.handles) : Keeps c id
  | reference {id : StorageId} (mem : id ∈ c.references) : Keeps c id
  | managed {r : RecordId} {id : StorageId} (mem : r ∈ c.managed)
      (exported : c.store.exportedFrom? r = some id) : Keeps c id
  | raw {r : RecordId} {id : StorageId} (mem : r ∈ c.raw)
      (exported : c.store.exportedFrom? r = some id) : Keeps c id
  | through {i id : StorageId} (kept : Keeps c i) (link : c.store.link? i = some id) : Keeps c id

theorem Keeps.reaches {i : StorageId} (kept : c.Keeps i) (reaches : c.store.Reaches i id) :
    c.Keeps id := by
  induction reaches with
  | refl => exact kept
  | tail _ link ih => exact .through ih link

/-! ## Holders and their storages are live -/

theorem holders_pos_of_exported {r : RecordId} (exported : c.store.exportedFrom? r = some id) :
    0 < c.holders id := by
  obtain ⟨record, found, hexporter⟩ := Option.bind_eq_some_iff.1 exported
  have pos : 0 < c.store.exportsOf id :=
    Table.tally_pos_iff.2 ⟨r, record, found, decide_eq_true hexporter⟩
  unfold holders
  omega

theorem holders_pos_of_link {i : StorageId} (link : c.store.link? i = some id) :
    0 < c.holders id := by
  obtain ⟨st, found, source⟩ := Store.link?_eq_some_iff.1 link
  rcases Store.source?_eq_some_iff.1 source with view | ⟨r, _, exported⟩
  · have pos : 0 < c.store.releasing (.view id) :=
      Table.tally_pos_iff.2 ⟨i, st, found, decide_eq_true view⟩
    unfold holders
    omega
  · exact holders_pos_of_exported exported

/-- What a live storage links to is live. -/
theorem Balanced.live_of_link {i : StorageId} (h : Balanced c)
    (link : c.store.link? i = some id) : ∃ st, c.store.storages.get? id = some st :=
  h.live (holders_pos_of_link link)

theorem Balanced.live_of_keeps (h : Balanced c) (kept : c.Keeps id) :
    ∃ st, c.store.storages.get? id = some st := by
  cases kept with
  | handle mem => exact h.live_of_mem_handles mem
  | reference mem => exact h.live_of_mem_references mem
  | managed _ exported | raw _ exported => exact h.live (holders_pos_of_exported exported)
  | through _ link => exact h.live_of_link link

/-! ## Links descend -/

/-- A record inside of a storage is a record of the store. -/
theorem Balanced.exists_of_foreign {i : StorageId} {st : Storage} {r : RecordId} (h : Balanced c)
    (found : c.store.storages.get? i = some st) (foreign : st.release = .foreign r) :
    ∃ record, c.store.records.get? r = some record := by
  have pos : 0 < c.store.releasing (.foreign r) :=
    Table.tally_pos_iff.2 ⟨i, st, found, decide_eq_true foreign⟩
  refine h.exists_of_places r ?_
  unfold places
  omega

/-- What an older record is an export of does not change. -/
theorem Effect.exportedFrom?_eq (e : Effect c c') (h : Balanced c) {r : RecordId} {record : Record}
    (found : c.store.records.get? r = some record) {j : StorageId}
    (exported : c'.store.exportedFrom? r = some j) : c.store.exportedFrom? r = some j := by
  obtain ⟨record', found', hexporter⟩ := Option.bind_eq_some_iff.1 exported
  rw [Store.exportedFrom?, found, Option.bind_some, ← (e.record_kept h found found').exporter?_eq]
  exact hexporter

/-- A link found after an effect was there before, or belongs to a new storage and leads to an older
one. -/
theorem Effect.link_cases (e : Effect c c') (h : Balanced c) {i j : StorageId}
    (link : c'.store.link? i = some j) :
    c.store.link? i = some j ∨
      i = c.store.storages.next ∧ ∃ st, c.store.storages.get? j = some st := by
  obtain ⟨st', found, source⟩ := Store.link?_eq_some_iff.1 link
  rcases e.storage_cases h found with ⟨st, hst, kept⟩ | ⟨hi, fresh⟩
  · left
    rcases kept.release with same | ⟨_, owner, external⟩
    · rw [same] at source
      refine Store.link?_eq_some_iff.2 ⟨st, hst, Store.source?_eq_some_iff.2 ?_⟩
      rcases Store.source?_eq_some_iff.1 source with view | ⟨r, foreign, exported⟩
      · exact .inl view
      · obtain ⟨record, hr⟩ := h.exists_of_foreign hst foreign
        exact .inr ⟨r, foreign, e.exportedFrom?_eq h hr exported⟩
    · rw [external] at source
      cases source
  · refine .inr ⟨hi, ?_⟩
    cases fresh with
    | owned | unowned => cases source
    | view _ _ live =>
      obtain rfl := Option.some.inj source
      exact ⟨_, live⟩
    | foreign _ _ hr =>
      exact h.live (holders_pos_of_exported (e.exportedFrom?_eq h hr source))

theorem Effect.descending (e : Effect c c') (h : Balanced c) (d : c.store.Descending) :
    c'.store.Descending := by
  intro i j link
  rcases e.link_cases h link with old | ⟨rfl, st, live⟩
  · exact d i j old
  · exact Table.lt_next_of_get? live

theorem descending_run (moves : List Move) : (run {} moves).store.Descending := by
  refine run_induction balanced_empty ?_ (fun e h d => e.descending h d) moves
  intro i j link
  obtain ⟨st, found, _⟩ := Store.link?_eq_some_iff.1 link
  cases found

/-! ## Live storages are kept alive -/

/-- Whoever counts among the holders of a storage is something that the client holds, or a younger
storage. -/
theorem keeps_or_link_of_holders_pos (h : Balanced c) (pos : 0 < c.holders id) :
    c.Keeps id ∨ ∃ i, c.store.link? i = some id := by
  have parts : 0 < c.handles.count ⟨some id⟩ ∨ 0 < c.store.releasing (.view id) ∨
      0 < c.store.exportsOf id ∨ 0 < c.references.count id := by
    unfold holders at pos
    omega
  rcases parts with handle | view | exports | reference
  · exact .inl (.handle (Multiset.count_pos.1 handle))
  · obtain ⟨i, st, found, hview⟩ := Table.tally_pos_iff.1 view
    exact .inr ⟨i, Store.link?_eq_some_iff.2
      ⟨st, found, Store.source?_eq_some_iff.2 (.inl (of_decide_eq_true hview))⟩⟩
  · obtain ⟨r, record, found, hexporter⟩ := Table.tally_pos_iff.1 exports
    have exporter : record.exporter? = some id := of_decide_eq_true hexporter
    have exported : c.store.exportedFrom? r = some id :=
      Option.bind_eq_some_iff.2 ⟨record, found, exporter⟩
    -- the export can be deleted, so it is in some place
    have placed := h.places_pos r record found (Record.hasDeleter_of_exporter? exporter)
    have places : 0 < c.managed.count r ∨ 0 < c.raw.count r ∨
        0 < c.store.releasing (.foreign r) := by
      unfold places at placed
      omega
    rcases places with managed | raw | foreign
    · exact .inl (.managed (Multiset.count_pos.1 managed) exported)
    · exact .inl (.raw (Multiset.count_pos.1 raw) exported)
    · obtain ⟨i, st, hst, hforeign⟩ := Table.tally_pos_iff.1 foreign
      exact .inr ⟨i, Store.link?_eq_some_iff.2 ⟨st, hst,
        Store.source?_eq_some_iff.2 (.inr ⟨r, of_decide_eq_true hforeign, exported⟩)⟩⟩
  · exact .inl (.reference (Multiset.count_pos.1 reference))

/-- **A storage is live if and only if it is kept alive.** -/
theorem keeps_iff_live (h : Balanced c) (d : c.store.Descending) :
    c.Keeps id ↔ ∃ st, c.store.storages.get? id = some st := by
  refine ⟨h.live_of_keeps, ?_⟩
  rintro ⟨st, live⟩
  -- from the youngest storage down to the oldest: a link comes from a younger one
  induction hn : c.store.storages.next - id using Nat.strongRecOn generalizing id st with
  | ind n ih =>
    have pos : 0 < c.holders id := by
      rw [← h.references_eq, Store.references_of_get? live]
      exact h.references_pos id st live
    rcases keeps_or_link_of_holders_pos h pos with kept | ⟨i, link⟩
    · exact kept
    · obtain ⟨younger, found, _⟩ := Store.link?_eq_some_iff.1 link
      have older := d i id link
      have bound := Table.lt_next_of_get? found
      exact .through (ih _ (by omega) younger found rfl) link

end Client

end SharedTensor
