import SharedTensor.Proofs.Client.Preserve
import SharedTensor.Proofs.Client.Statistics

/-!
# Paths of links

From every storage the links lead along a path to a storage that has none (`Store.Path`,
`Descending.exists_path`). A cascade along it takes the first storages away, deletes the records
inside of them, and lowers the count of the next one (`Store.Cascade`); if no storage is left, the
root has been taken away too, and its buffer is freed or its owner is told. To take a storage away
is a cascade (`cascade_retire`), and so are two cascades one after the other, unless the first one
ends with a root (`Cascade.trans`).
-/

namespace SharedTensor

/-- The buffer that a release frees. -/
def Release.block? : Release → Option Block
  | .owned block => some block
  | _ => none

namespace Store

variable {s s' s₁ s₂ : Store} {id i : StorageId} {r : RecordId} {path : List StorageId}

/-! ## Paths -/

/-- The storages that one comes by along the links, up to the one that has none. -/
inductive Path (s : Store) : StorageId → List StorageId → Prop
  | root {id : StorageId} (ends : s.link? id = none) : Path s id [id]
  | link {id other : StorageId} {path : List StorageId} (link : s.link? id = some other)
      (rest : Path s other path) : Path s id (id :: path)

theorem Path.ne_nil (h : s.Path id path) : path ≠ [] := by
  cases h <;> exact List.cons_ne_nil _ _

theorem Path.unique {path' : List StorageId} (h : s.Path id path) (h' : s.Path id path') :
    path = path' := by
  induction h generalizing path' with
  | root ends =>
    cases h' with
    | root => rfl
    | link link _ =>
      rw [ends] at link
      cases link
  | link link _ ih =>
    cases h' with
    | root ends =>
      rw [ends] at link
      cases link
    | link link' rest' =>
      obtain rfl := Option.some.inj (link.symm.trans link')
      rw [ih rest']

theorem Descending.exists_path (d : s.Descending) (id : StorageId) : ∃ path, s.Path id path := by
  induction id using Nat.strongRecOn with
  | ind id ih =>
    cases link : s.link? id with
    | none => exact ⟨[id], .root link⟩
    | some other =>
      obtain ⟨path, rest⟩ := ih other (d id other link)
      exact ⟨id :: path, .link link rest⟩

theorem Path.le (h : s.Path id path) (d : s.Descending) : ∀ i : Nat, i ∈ path → i ≤ id := by
  induction h with
  | root => exact fun i mem => (List.mem_singleton.1 mem).le
  | link link _ ih =>
    intro i mem
    rcases List.mem_cons.1 mem with rfl | mem
    · exact le_rfl
    · exact (ih i mem).trans (d _ _ link).le

/-- No storage comes twice on a path. -/
theorem Path.nodup (h : s.Path id path) (d : s.Descending) : path.Nodup := by
  induction h with
  | root => exact List.nodup_singleton _
  | @link id other path link rest ih =>
    refine List.nodup_cons.2 ⟨fun mem => ?_, ih⟩
    have older := rest.le d id mem
    have younger := d id other link
    omega

/-! ## What is inside of a storage -/

/-- The record, if it can be deleted. -/
def deletable? (s : Store) (r : RecordId) : Option RecordId :=
  if (s.records.get? r).any (·.hasDeleter) then some r else none

/-- The record that a release deletes. -/
def deletion? (s : Store) : Release → Option RecordId
  | .foreign r => s.deletable? r
  | _ => none

/-- The record that is deleted when a storage goes. -/
def inside? (s : Store) (id : StorageId) : Option RecordId :=
  (s.storages.get? id).bind fun st => s.deletion? st.release

/-- The buffer that is freed when a storage goes. -/
def buffer? (s : Store) (id : StorageId) : Option Block :=
  (s.storages.get? id).bind fun st => st.release.block?

/-- Is the record an export? -/
def isExport (s : Store) (r : RecordId) : Bool :=
  (s.records.get? r).any (·.origin = .exported)

theorem deletable?_of_found {record : Record} (found : s.records.get? r = some record) :
    s.deletable? r = if record.hasDeleter then some r else none := by
  rw [deletable?, found, Option.any_some]

theorem deletable?_of_none (missing : s.records.get? r = none) : s.deletable? r = none := by
  rw [deletable?, missing, Option.any_none, if_neg Bool.false_ne_true]

theorem eq_of_deletable? (h : s.deletable? r = some i) : i = r := by
  unfold deletable? at h
  split at h
  · exact (Option.some.inj h).symm
  · cases h

theorem exists_of_inside? (h : s.inside? id = some r) :
    ∃ record, s.records.get? r = some record := by
  obtain ⟨st, -, deletion⟩ := Option.bind_eq_some_iff.1 h
  cases release : st.release with
  | foreign i =>
    rw [release] at deletion
    obtain rfl := eq_of_deletable? deletion
    cases found : s.records.get? r with
    | none =>
      rw [deletion?, deletable?_of_none found] at deletion
      cases deletion
    | some record => exact ⟨record, rfl⟩
  | owned | unowned | view | external =>
    rw [release] at deletion
    cases deletion

theorem filterMap_inside?_cons (s : Store) (id : StorageId) (ids : List StorageId) :
    (id :: ids).filterMap s.inside? = (s.inside? id).toList ++ ids.filterMap s.inside? := by
  rw [List.filterMap_cons]
  cases s.inside? id <;> rfl

/-- Neither the release of the storage nor the record inside of it has changed. -/
structure Agrees (s s' : Store) (i : StorageId) : Prop where
  release : (s'.storages.get? i).map (·.release) = (s.storages.get? i).map (·.release)
  record : ∀ r, (s.storages.get? i).map (·.release) = some (.foreign r) →
    s'.records.get? r = s.records.get? r

namespace Agrees

theorem trans (h₁ : Agrees s s₁ i) (h₂ : Agrees s₁ s₂ i) : Agrees s s₂ i where
  release := h₂.release.trans h₁.release
  record r foreign := (h₂.record r (h₁.release.trans foreign)).trans (h₁.record r foreign)

/-- What is found out from the release and the record inside has not changed. -/
theorem bind_eq {α : Type} {f f' : Release → Option α} (h : Agrees s s' i)
    (same : ∀ release, (∀ r, release = .foreign r → s'.records.get? r = s.records.get? r) →
      f' release = f release) :
    ((s'.storages.get? i).bind fun st => f' st.release) =
      (s.storages.get? i).bind fun st => f st.release := by
  have through (s : Store) (f : Release → Option α) :
      ((s.storages.get? i).bind fun st => f st.release) =
        ((s.storages.get? i).map (·.release)).bind f := by
    rw [Option.bind_map]
    rfl
  rw [through, through, h.release]
  cases found : (s.storages.get? i).map (·.release) with
  | none => rfl
  | some release => exact same release fun r foreign => h.record r (foreign ▸ found)

theorem link?_eq (h : Agrees s s' i) : s'.link? i = s.link? i := by
  refine h.bind_eq fun release same => ?_
  cases release with
  | foreign r => rw [source?, source?, exportedFrom?, exportedFrom?, same r rfl]
  | owned | unowned | view | external => rfl

theorem inside?_eq (h : Agrees s s' i) : s'.inside? i = s.inside? i := by
  refine h.bind_eq fun release same => ?_
  cases release with
  | foreign r => rw [deletion?, deletion?, deletable?, deletable?, same r rfl]
  | owned | unowned | view | external => rfl

theorem due?_eq (h : Agrees s s' i) : s'.due? i = s.due? i := by
  refine h.bind_eq fun release same => ?_
  cases release with
  | foreign r => rw [releaseDue?, releaseDue?, recordDue?, recordDue?, same r rfl]
  | owned | unowned | view | external => rfl

theorem buffer?_eq (h : Agrees s s' i) : s'.buffer? i = s.buffer? i :=
  h.bind_eq fun _ _ => rfl

end Agrees

/-- A path is one of every store that agrees along it. -/
theorem Path.congr (h : s.Path id path) (agrees : ∀ i ∈ path, Agrees s s' i) : s'.Path id path := by
  induction h with
  | root ends => exact .root ((agrees _ List.mem_cons_self).link?_eq.trans ends)
  | link link _ ih =>
    exact .link ((agrees _ List.mem_cons_self).link?_eq.trans link)
      (ih fun i mem => agrees i (List.mem_cons_of_mem _ mem))

/-! ## Deletions -/

theorem left_deleteRecord (s : Store) (r : RecordId) :
    (s.deleteRecord r).2 = s.exportedFrom? r := by
  unfold exportedFrom?
  cases found : s.records.get? r with
  | none => rw [deleteRecord, found]; rfl
  | some record =>
    by_cases deletable : record.hasDeleter
    · rw [(deleteRecord_of_hasDeleter found deletable).2]
      rfl
    · rw [deleteRecord_of_not_hasDeleter found deletable]
      simp [Record.exporter?, deletable]

/-- What a release leaves over is the link of the storage. -/
theorem left_retire {st : Storage} (live : s.storages.get? id = some st) :
    (s.retire id st).2 = s.link? id := by
  rw [link?, live, Option.bind_some]
  change ((s.forget id).runRelease id st.release).2 = _
  cases st.release with
  | foreign r => exact left_deleteRecord (s.forget id) r
  | owned | unowned | view | external => rfl

theorem records_deleteRecord (s : Store) (r i : RecordId) :
    (s.deleteRecord r).1.records.get? i =
      if i ∈ (s.deletable? r).toList then none else s.records.get? i := by
  cases found : s.records.get? r with
  | none =>
    rw [deleteRecord, found, deletable?_of_none found]
    rfl
  | some record =>
    by_cases deletable : record.hasDeleter
    · rw [(deleteRecord_of_hasDeleter found deletable).1, Table.get?_erase,
        deletable?_of_found found, if_pos deletable]
      simp only [Option.toList_some, List.mem_singleton]
    · rw [deleteRecord_of_not_hasDeleter found deletable, deletable?_of_found found,
        if_neg deletable]
      rfl

/-- The counter of exports covers every export. -/
def ExportsCovered (s : Store) : Prop :=
  ∀ r record, s.records.get? r = some record → record.origin = .exported → 1 ≤ s.counters.exports

/-- A deletion changes no counter but that of exports, which loses what is deleted. -/
theorem counters_deleteRecord (covered : s.ExportsCovered) (r : RecordId) :
    (s.deleteRecord r).1.counters.live = s.counters.live ∧
      (s.deleteRecord r).1.counters.released = s.counters.released ∧
      (s.deleteRecord r).1.counters.exports + (s.deletable? r).toList.countP s.isExport =
        s.counters.exports := by
  cases found : s.records.get? r with
  | none =>
    rw [deleteRecord, found, deletable?_of_none found]
    exact ⟨rfl, rfl, rfl⟩
  | some record =>
    by_cases deletable : record.hasDeleter
    · rw [deletable?_of_found found, if_pos deletable, Option.toList_some, List.countP_singleton,
        isExport, found, Option.any_some]
      cases origin : record.origin with
      | exported =>
        have one := covered r record found origin
        rw [deleteRecord_of_exported found deletable origin]
        exact ⟨rfl, rfl, Nat.sub_add_cancel one⟩
      | produced producer =>
        rw [deleteRecord_of_produced found deletable origin]
        exact ⟨rfl, rfl, rfl⟩
    · rw [deleteRecord_of_not_hasDeleter found deletable, deletable?_of_found found,
        if_neg deletable]
      exact ⟨rfl, rfl, rfl⟩

/-! ## Cascades -/

/-- The root of a path, if the whole path is released. -/
def ended (released rest : List StorageId) : Option StorageId :=
  if rest = [] then released.getLast? else none

/-- **What a drop along a path does.** The storages of `released` are gone, and the first one of
`rest` has a reference fewer. Some records are deleted. If `rest` is empty, the root is released as
well: its buffer is freed, or what is due is told. Nothing else changes. -/
structure Cascade (s s' : Store) (released rest : List StorageId) (deleted : List RecordId) :
    Prop where
  storages : ∀ i, s'.storages.get? i =
    if i ∈ released then none
    else if rest.head? = some i then
      (s.storages.get? i).map fun st => { st with references := st.references - 1 }
    else s.storages.get? i
  records : ∀ r, s'.records.get? r = if r ∈ deleted then none else s.records.get? r
  live : s'.counters.live + released.length = s.counters.live
  gone : s'.counters.released = s.counters.released + released.length
  exports : s'.counters.exports + deleted.countP s.isExport = s.counters.exports
  notices : s'.notices = s.notices ++ ((ended released rest).bind s.due?).toList
  host : s'.host = ((ended released rest).bind s.buffer?).elim s.host s.host.free

namespace Cascade

variable {first released rest : List StorageId} {deleted d₁ d₂ : List RecordId}

theorem references_eq (h : Cascade s s' released [] deleted) (left : i ∉ released) :
    s'.references ⟨some i⟩ = s.references ⟨some i⟩ := by
  rw [references_some, references_some, h.storages, if_neg left]
  rfl

/-- A storage that is not released agrees with what it was, if the record inside of it is there. -/
theorem agrees (h : Cascade s s' released rest deleted) (left : i ∉ released)
    (there : ∀ st r, s'.storages.get? i = some st → st.release = .foreign r →
      ∃ record, s'.records.get? r = some record) : Agrees s s' i := by
  have release : (s'.storages.get? i).map (·.release) = (s.storages.get? i).map (·.release) := by
    rw [h.storages, if_neg left]
    split
    · rw [Option.map_map]
      rfl
    · rfl
  refine ⟨release, fun r foreign => ?_⟩
  rw [← release] at foreign
  obtain ⟨st, live, foreign⟩ := Option.map_eq_some_iff.1 foreign
  obtain ⟨record, found⟩ := there st r live foreign
  rw [h.records] at found ⊢
  split at found
  · cases found
  · next other => rw [if_neg other]

end Cascade

/-- A count is lowered. -/
theorem cascade_lower (s : Store) (id : StorageId) (path : List StorageId) :
    Cascade s (s.lower id) [] (id :: path) [] where
  storages i := by
    simp only [lower, Table.get?_update, List.not_mem_nil, if_false, List.head?_cons,
      Option.some.injEq, eq_comm]
  records _ := rfl
  live := rfl
  gone := rfl
  exports := rfl
  notices := (List.append_nil _).symm
  host := rfl

theorem host_retire (s : Store) (id : StorageId) (st : Storage) :
    (s.retire id st).1.host = st.release.block?.elim s.host s.host.free := by
  change ((s.forget id).runRelease id st.release).1.host = _
  cases st.release with
  | foreign r => exact Client.host_deleteRecord (s.forget id) r
  | owned | unowned | view | external => rfl

/-- A release changes no counter but that of exports, which loses what is deleted. -/
theorem counters_runRelease (covered : s.ExportsCovered) (id : StorageId) (release : Release) :
    (s.runRelease id release).1.counters.live = s.counters.live ∧
      (s.runRelease id release).1.counters.released = s.counters.released ∧
      (s.runRelease id release).1.counters.exports +
        (s.deletion? release).toList.countP s.isExport = s.counters.exports := by
  cases release with
  | foreign r => exact counters_deleteRecord covered r
  | owned | unowned | view | external => exact ⟨rfl, rfl, rfl⟩

/-- **To take a storage away is a cascade.** -/
theorem cascade_retire {st : Storage} (counted : s.Counted)
    (found : s.storages.get? id = some st) :
    Cascade s (s.retire id st).1 [id] [] (s.inside? id).toList := by
  have inside : s.inside? id = s.deletion? st.release := by rw [inside?, found, Option.bind_some]
  have one := counted.covered.live id st found
  obtain ⟨live, gone, exports⟩ :=
    (s.forget id).counters_runRelease counted.covered.exports id st.release
  rw [inside]
  constructor
  case storages =>
    intro i
    rw [get?_retire]
    simp only [List.mem_singleton, List.head?_nil, reduceCtorEq, if_false]
  case records =>
    intro r
    change ((s.forget id).runRelease id st.release).1.records.get? r = _
    cases st.release with
    | foreign i => exact records_deleteRecord (s.forget id) i r
    | owned | unowned | view | external => rfl
  case live => exact (congrArg (· + 1) live).trans (Nat.sub_add_cancel one)
  case gone => exact gone
  case exports => exact exports
  case notices =>
    rw [notices_retire]
    simp only [ended, if_true, List.getLast?_singleton, Option.bind_some, due?, found]
  case host =>
    rw [host_retire]
    simp only [ended, if_true, List.getLast?_singleton, Option.bind_some, buffer?, found]

/-- **To delete an export is a cascade** that releases no storage. -/
theorem cascade_deleteRecord {record : Record} (counted : s.Counted)
    (found : s.records.get? r = some record) (deletable : record.hasDeleter)
    (exported : record.origin = .exported) : Cascade s (s.deleteRecord r).1 [] [] [r] := by
  have one := counted.covered.exports r record found exported
  have counts : s.isExport r := by
    rw [isExport, found, Option.any_some, exported]
    rfl
  rw [deleteRecord_of_exported found deletable exported]
  constructor
  case storages =>
    intro i
    simp only [List.not_mem_nil, List.head?_nil, reduceCtorEq, if_false]
  case records =>
    intro i
    simp only [Table.get?_erase, List.mem_singleton]
  case live => rfl
  case gone => rfl
  case exports =>
    rw [List.countP_singleton, if_pos counts]
    exact Nat.sub_add_cancel one
  case notices => exact (List.append_nil _).symm
  case host => rfl

/-- Nothing is told and nothing is freed with the root, if there is one. -/
def Silent (s : Store) (root : Option StorageId) : Prop :=
  root.bind s.due? = none ∧ root.bind s.buffer? = none

/-- **A cascade goes on with another one**, if the first one takes no root away and what the second
one comes by has not changed. -/
theorem Cascade.trans {first released rest : List StorageId} {d₁ d₂ : List RecordId}
    (h₁ : Cascade s s₁ first [] d₁) (silent : s.Silent (ended first []))
    (h₂ : Cascade s₁ s₂ released rest d₂) (more : released ++ rest ≠ [])
    (agrees : ∀ i ∈ released, Agrees s s₁ i)
    (there : ∀ r ∈ d₂, ∃ record, s₁.records.get? r = some record) :
    Cascade s s₂ (first ++ released) rest (d₁ ++ d₂) := by
  have same (i : StorageId) (other : i ∉ first) : s₁.storages.get? i = s.storages.get? i := by
    rw [h₁.storages, if_neg other]
    rfl
  have root : ended (first ++ released) rest = ended released rest := by
    unfold ended
    split
    · next none =>
      rw [none, List.append_nil] at more
      rw [List.getLast?_append_of_ne_nil _ more]
    · rfl
  have along {α : Type} {f f₁ : StorageId → Option α} (eq : ∀ i ∈ released, f₁ i = f i) :
      (ended released rest).bind f₁ = (ended released rest).bind f := by
    unfold ended
    split
    · cases last : released.getLast? with
      | none => rfl
      | some i => exact eq i (List.mem_of_getLast? last)
    · rfl
  constructor
  case storages =>
    intro i
    rw [h₂.storages]
    by_cases mem : i ∈ first
    · have missing : s₁.storages.get? i = none := by rw [h₁.storages, if_pos mem]
      rw [missing, if_pos (List.mem_append_left _ mem)]
      split_ifs <;> rfl
    · simp only [same i mem, List.mem_append, mem, false_or]
  case records =>
    intro r
    rw [h₂.records, h₁.records]
    simp only [List.mem_append]
    split_ifs <;> simp_all
  case live =>
    have := h₁.live
    have := h₂.live
    rw [List.length_append]
    omega
  case gone =>
    rw [h₂.gone, h₁.gone, List.length_append, Nat.add_assoc]
  case exports =>
    have unchanged : d₂.countP s₁.isExport = d₂.countP s.isExport := by
      refine List.countP_congr fun r mem => ?_
      have kept : s₁.records.get? r = s.records.get? r := by
        obtain ⟨record, found⟩ := there r mem
        rw [h₁.records] at found ⊢
        split at found
        · cases found
        · next other => rw [if_neg other]
      rw [isExport, isExport, kept]
    have := h₁.exports
    have := h₂.exports
    rw [List.countP_append]
    omega
  case notices =>
    rw [h₂.notices, h₁.notices, silent.1, root, along fun i mem => (agrees i mem).due?_eq]
    simp only [Option.toList_none, List.append_nil]
  case host =>
    have kept : s₁.host = s.host := by
      rw [h₁.host, silent.2]
      rfl
    rw [h₂.host, kept, root, along fun i mem => (agrees i mem).buffer?_eq]

end Store

end SharedTensor
