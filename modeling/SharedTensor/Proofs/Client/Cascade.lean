import SharedTensor.Proofs.Client.Path

/-!
# A drop releases what it held alone

A drop follows the path of links from the storage that loses a reference
(`Client.cascades_drop`). It releases the storages at the start of the path, each once, as long as
each has no other reference; the first one that has another only has its count lowered, and all the
others are left alone (`drop_cascades`). So the root is only released with the whole path, and at
most one party is told.
-/

namespace SharedTensor.Client

open Store

variable {c : Client} {id i : StorageId} {r : RecordId} {path : List StorageId}

/-! ## What stays as it is -/

/-- A record that is deleted is inside of no storage. -/
theorem agrees_deleteRecord (h : Placed { c with raw := r ::ₘ c.raw }) (i : StorageId) :
    Agrees c.store (c.store.deleteRecord r).1 i where
  release := by rw [deleteRecord_storages]
  record other foreign := by
    obtain ⟨st, live, foreign⟩ := Option.map_eq_some_iff.1 foreign
    rw [records_deleteRecord, if_neg]
    intro mem
    obtain rfl := eq_of_deletable? (Option.mem_toList.1 mem)
    -- the record would be in two places
    have inside : 0 < c.store.releasing (.foreign other) :=
      Table.tally_pos_iff.2 ⟨i, st, live, decide_eq_true foreign⟩
    have once := h.places_le other
    simp only [places, Multiset.count_cons_self] at once
    omega

/-- When a storage goes, the others and the records inside of them stay. -/
theorem agrees_retire {st : Storage} (h : Balanced { c with references := id ::ₘ c.references })
    (live : c.store.storages.get? id = some st) (last : ¬ 1 < st.references) (other : i ≠ id) :
    Agrees c.store (c.store.retire id st).1 i := by
  have forgotten : Agrees c.store (c.store.forget id) i :=
    ⟨by rw [Store.forget, Table.get?_erase, if_neg other], fun _ _ => rfl⟩
  have rest := h.forget live last
  refine forgotten.trans ?_
  change Agrees _ ((c.store.forget id).runRelease id st.release).1 i
  cases release : st.release with
  | foreign r =>
    rw [release] at rest
    exact agrees_deleteRecord (c := { c with store := c.store.forget id }) rest.toPlaced i
  | owned | unowned | view | external => exact ⟨rfl, fun _ _ => rfl⟩

/-- With a storage that links to another one nothing is told and nothing is freed. -/
theorem silent_of_link {s : Store} {other : StorageId} (link : s.link? id = some other) :
    s.Silent (some id) := by
  obtain ⟨st, live, source⟩ := link?_eq_some_iff.1 link
  rw [Silent, Option.bind_some, Option.bind_some, due?, buffer?, live, Option.bind_some,
    Option.bind_some]
  rcases source?_eq_some_iff.1 source with view | ⟨r, foreign, exported⟩
  · rw [view]
    exact ⟨rfl, rfl⟩
  · obtain ⟨record, found, exporter⟩ := Option.bind_eq_some_iff.1 exported
    rw [foreign, releaseDue?, recordDue?, found, Option.bind_some, Record.due?,
      Record.origin_of_exporter? exporter]
    exact ⟨rfl, rfl⟩

/-! ## Drops -/

/-- The storages of a path that a drop releases: each has one reference, and the next storage, if
there is one, has more. -/
structure Split (s : Store) (released rest : List StorageId) : Prop where
  sole : ∀ i ∈ released, s.references ⟨some i⟩ = 1
  shared : ∀ i ∈ rest.head?, 2 ≤ s.references ⟨some i⟩

/-- The drop of a reference, and of a record that holds it, as a cascade along a path. -/
def Cascades (s s' : Store) (dropped : Option RecordId) (path : List StorageId) : Prop :=
  ∃ released rest, path = released ++ rest ∧ Split s released rest ∧
    Cascade s s' released rest (dropped.toList ++ released.filterMap s.inside?)

/-- A cascade along a path goes on where a first step has ended, which leaves the path alone. -/
theorem Cascades.after {s s₁ s₂ : Store} {first : List StorageId} {gone : Option RecordId}
    (h : Cascades s₁ s₂ none path) (h₁ : Cascade s s₁ first [] gone.toList)
    (silent : s.Silent (ended first [])) (fresh : ∀ i ∈ path, i ∉ first)
    (agrees : ∀ i ∈ path, Agrees s s₁ i) (more : path ≠ []) :
    ∃ released rest, path = released ++ rest ∧ Split s released rest ∧
      Cascade s s₂ (first ++ released) rest (gone.toList ++ released.filterMap s.inside?) := by
  obtain ⟨released, rest, rfl, split, cascade⟩ := h
  have left : ∀ i ∈ released, Agrees s s₁ i := fun i mem => agrees i (List.mem_append_left _ mem)
  have inside : released.filterMap s₁.inside? = released.filterMap s.inside? :=
    List.filterMap_congr fun i mem => (left i mem).inside?_eq
  refine ⟨released, rest, rfl, ⟨fun i mem => ?sole, fun i mem => ?shared⟩, ?cascade⟩
  case sole =>
    rw [← h₁.references_eq (fresh i (List.mem_append_left _ mem))]
    exact split.sole i mem
  case shared =>
    have right : i ∈ released ++ rest := List.mem_append_right _ (List.mem_of_mem_head? mem)
    rw [← h₁.references_eq (fresh i right)]
    exact split.shared i mem
  case cascade =>
    rw [Option.toList_none, List.nil_append] at cascade
    rw [← inside]
    refine h₁.trans silent cascade more left fun r mem => ?_
    obtain ⟨i, -, inside⟩ := List.mem_filterMap.1 mem
    exact exists_of_inside? inside

/-- A cascade goes on along a link, after the storage in front of it has been released. -/
theorem Cascades.cons {s s' : Store} {st : Storage} {other : StorageId}
    (h : Cascades (s.retire id st).1 s' none path) (counted : s.Counted)
    (live : s.storages.get? id = some st) (sole : s.references ⟨some id⟩ = 1)
    (link : s.link? id = some other) (once : id ∉ path)
    (agrees : ∀ i ∈ path, Agrees s (s.retire id st).1 i) (more : path ≠ []) :
    Cascades s s' none (id :: path) := by
  have fresh : ∀ i ∈ path, i ∉ [id] := fun i mem same => once (List.mem_singleton.1 same ▸ mem)
  obtain ⟨released, rest, rfl, split, cascade⟩ :=
    h.after (cascade_retire counted live) (silent_of_link link) fresh agrees more
  refine ⟨id :: released, rest, rfl, ⟨List.forall_mem_cons.2 ⟨sole, split.sole⟩, split.shared⟩, ?_⟩
  rw [Option.toList_none, List.nil_append, filterMap_inside?_cons]
  exact cascade

/-- **A drop is a cascade along the path.** -/
theorem cascades_drop (h : Balanced { c with references := id ::ₘ c.references })
    (counted : c.store.Counted) (hpath : c.store.Path id path) (nodup : path.Nodup) :
    Cascades c.store (c.store.drop id) none path := by
  induction path generalizing c id with
  | nil => exact absurd rfl hpath.ne_nil
  | cons first path ih =>
    obtain rfl : first = id := by cases hpath <;> rfl
    obtain ⟨st, live⟩ := h.live_of_mem_references (Multiset.mem_cons_self first _)
    have count : c.store.references ⟨some first⟩ = st.references := references_of_get? live
    by_cases many : 1 < st.references
    · -- the drop ends here
      refine ⟨[], first :: path, rfl, ⟨nofun, fun i mem => ?_⟩, ?_⟩
      · obtain rfl := Option.some.inj mem
        rw [count]
        exact many
      · rw [drop_of_many live many]
        exact cascade_lower c.store first path
    · have sole : c.store.references ⟨some first⟩ = 1 := by
        have pos := h.references_pos first st live
        omega
      rw [drop_of_last live many, left_retire live]
      cases hpath with
      | root ends =>
        refine ⟨[first], [], rfl, ⟨fun i mem => ?_, nofun⟩, ?_⟩
        · rw [List.mem_singleton.1 mem, sole]
        · rw [ends, Option.toList_none, List.nil_append, filterMap_inside?_cons,
            List.filterMap_nil, List.append_nil]
          exact cascade_retire counted live
      | @link _ other _ link linked =>
        rw [link]
        obtain ⟨once, nodup⟩ := List.nodup_cons.1 nodup
        have agrees : ∀ i ∈ path, Agrees c.store (c.store.retire first st).1 i := fun i mem =>
          agrees_retire h live many fun same => once (same ▸ mem)
        have owed := h.retire live many
        rw [left_retire live, link] at owed
        have goesOn := ih (c := { c with store := (c.store.retire first st).1 }) owed
          (counted.retire live) (linked.congr agrees) nodup
        exact goesOn.cons counted live sole link once agrees linked.ne_nil

/-- **To give up an exported record is a cascade along the path** of the storage it is an export
of. -/
theorem cascades_dropRecord (h : Balanced { c with raw := r ::ₘ c.raw }) (counted : c.store.Counted)
    (exported : c.store.exportedFrom? r = some id) (hpath : c.store.Path id path)
    (nodup : path.Nodup) : Cascades c.store (c.store.dropRecord r) (some r) path := by
  obtain ⟨record, found, exporter⟩ := Option.bind_eq_some_iff.1 exported
  have deleted : Cascade c.store (c.store.deleteRecord r).1 [] [] (some r).toList :=
    cascade_deleteRecord counted found (Record.hasDeleter_of_exporter? exporter)
      (Record.origin_of_exporter? exporter)
  have agrees : ∀ i ∈ path, Agrees c.store (c.store.deleteRecord r).1 i := fun i _ =>
    agrees_deleteRecord h.toPlaced i
  have owed := h.delete
  rw [left_deleteRecord, exported] at owed
  rw [dropRecord, left_deleteRecord, exported]
  have goesOn := cascades_drop (c := { c with store := (c.store.deleteRecord r).1 }) owed
    (counted.deleteRecord r) (hpath.congr agrees) nodup
  exact goesOn.after deleted ⟨rfl, rfl⟩ (fun _ _ => List.not_mem_nil) agrees hpath.ne_nil

/-! ## Moves -/

/-- The move drops a reference to the storage: a handle, an export, or a raw reference. -/
inductive Drops (c : Client) : Move → StorageId → Option RecordId → Prop
  | handle {id : StorageId} (held : ⟨some id⟩ ∈ c.handles) : Drops c (.drop ⟨some id⟩) id none
  | managed {r : RecordId} {id : StorageId} (held : r ∈ c.managed)
      (exported : c.store.exportedFrom? r = some id) : Drops c (.dropManaged r) id (some r)
  | raw {r : RecordId} {id : StorageId} (held : r ∈ c.raw)
      (exported : c.store.exportedFrom? r = some id) : Drops c (.delete r) id (some r)
  | reference {id : StorageId} (held : id ∈ c.references) : Drops c (.dropReference id) id none

theorem Drops.cascades {m : Move} {dropped : Option RecordId} (drops : Drops c m id dropped)
    (h : Balanced c) (counted : c.store.Counted) (hpath : c.store.Path id path)
    (nodup : path.Nodup) : Cascades c.store (c.step m).store dropped path := by
  cases drops with
  | handle held =>
    have permitted : c.permits (.drop ⟨some id⟩) := decide_eq_true held
    let c' : Client := { c with handles := c.handles.erase ⟨some id⟩ }
    have e := Effect.toReference (c := c') id
    rw [Multiset.cons_erase held] at e
    rw [step_of_permits permitted]
    exact cascades_drop (c := c') (e.balanced h) counted hpath nodup
  | @managed r _ held exported =>
    have permitted : c.permits (.dropManaged r) := decide_eq_true held
    let c' : Client := { c with managed := c.managed.erase r }
    have e := Effect.toRaw (c := c') r
    rw [Multiset.cons_erase held] at e
    rw [step_of_permits permitted]
    exact cascades_dropRecord (c := c') (e.balanced h) counted exported hpath nodup
  | @raw r _ held exported =>
    have permitted : c.permits (.delete r) := decide_eq_true held
    rw [step_of_permits permitted]
    refine cascades_dropRecord (c := { c with raw := c.raw.erase r }) ?_ counted exported hpath
      nodup
    rwa [Multiset.cons_erase held]
  | reference held =>
    have permitted : c.permits (.dropReference id) := decide_eq_true held
    rw [step_of_permits permitted]
    refine cascades_drop (c := { c with references := c.references.erase id }) ?_ counted hpath
      nodup
    rwa [Multiset.cons_erase held]

/-- **A drop releases what it held alone.** The links from the storage lead along a path on which no
storage comes twice. Its first storages are those with one reference: they are released, each once,
and the records inside of them are deleted, along with the record that was dropped. The first
storage with more references has its count lowered by one; no other storage, count or record
changes, and what is due, freed or deleted with a storage that is left stays so. The root is
released only with the whole path, and then its buffer is freed or what is due is told, which is one
notice at most. The counters fall by what has been released and by the exports among the deleted
records. -/
theorem drop_cascades (moves : List Move) {m : Move} {id : StorageId} {dropped : Option RecordId}
    (drops : Drops (run {} moves) m id dropped) :
    let s := (run {} moves).store
    let s' := ((run {} moves).step m).store
    ∃ released rest, s.Path id (released ++ rest) ∧ (released ++ rest).Nodup ∧
      Split s released rest ∧
      Cascade s s' released rest (dropped.toList ++ released.filterMap s.inside?) ∧
      ∀ i ∉ released,
        s'.due? i = s.due? i ∧ s'.buffer? i = s.buffer? i ∧ s'.inside? i = s.inside? i := by
  intro s s'
  have h : Balanced (run {} moves) := balanced_run balanced_empty moves
  have d : s.Descending := descending_run moves
  obtain ⟨path, hpath⟩ := d.exists_path id
  obtain ⟨released, rest, rfl, split, cascade⟩ :=
    drops.cascades h (counted_run moves) hpath (hpath.nodup d)
  refine ⟨released, rest, hpath, hpath.nodup d, split, cascade, fun i left => ?_⟩
  have after : Balanced ((run {} moves).step m) := (effects_step h m).balanced h
  have agrees : Agrees s s' i := cascade.agrees left fun st r live foreign =>
    after.exists_of_foreign live foreign
  exact ⟨agrees.due?_eq, agrees.buffer?_eq, agrees.inside?_eq⟩

/-- A tensor is adopted, a view of it is exported, and the export is imported; then the handles of
the tensor and of the view are dropped. -/
def chained : List Move :=
  [.ofParts ⟨⟨[1], [1]⟩, 0, .uint8, .cpu⟩ ⟨4096, ⟨4096, 1⟩⟩, .adopt ⟨some 0⟩ (.closure "owner"),
    .view ⟨some 0⟩ {}, .exportHandle ⟨some 1⟩, .importManaged 0, .drop ⟨some 0⟩, .drop ⟨some 1⟩]

/-- The last handle of the chain: the drop releases all three storages and tells the owner. -/
theorem drop_cascades_chained :
    Drops (run {} chained) (.drop ⟨some 2⟩) 2 none ∧
      (run {} chained).store.Path 2 [2, 1, 0] ∧ (run {} chained).store.counters.live = 3 ∧
      ((run {} chained).step (.drop ⟨some 2⟩)).store.notices = [.released 0 (.closure "owner")] ∧
      ((run {} chained).step (.drop ⟨some 2⟩)).store.counters.live = 0 := by
  have drops : Drops (run {} chained) (.drop ⟨some 2⟩) 2 none := .handle (by decide +kernel)
  have hpath : (run {} chained).store.Path 2 [2, 1, 0] :=
    .link (by decide +kernel) (.link (by decide +kernel) (.root (by decide +kernel)))
  have silent : (run {} chained).store.notices = [] := by decide +kernel
  have three : (run {} chained).store.counters.live = 3 := by decide +kernel
  obtain ⟨released, rest, path, -, split, cascade, -⟩ := drop_cascades chained drops
  have all : released ++ rest = [2, 1, 0] := path.unique hpath
  have none : rest = [] := by
    cases rest with
    | nil => rfl
    | cons stop rest =>
      have sole : ∀ i ∈ [2, 1, 0], (run {} chained).store.references ⟨some i⟩ = 1 := by
        decide +kernel
      have one := sole stop (all ▸ List.mem_append_right _ List.mem_cons_self)
      have two := split.shared stop rfl
      rw [one] at two
      exact absurd two (by decide)
  rw [none, List.append_nil] at all
  rw [all, none] at cascade
  have root : ended [2, 1, 0] [] = some 0 := rfl
  have due : (run {} chained).store.due? 0 = some (.released 0 (.closure "owner")) := by
    decide +kernel
  have told := cascade.notices
  rw [root, Option.bind_some, due, silent, Option.toList_some, List.nil_append] at told
  have live := cascade.live
  rw [three] at live
  exact ⟨drops, hpath, three, told, (Nat.add_eq_right.1 live)⟩

end SharedTensor.Client
