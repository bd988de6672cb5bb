import SharedTensor.Proofs.Client.Balance

/-!
# Runs are chains of effects

A drop goes from storage to storage, retiring each of them, until it comes to one that has other
references (`effects_drop`). From this it follows for every move (`effects_step`) and for every run
(`effects_run`) that it is a chain of effects, so that an invariant of effects is one of runs
(`run_induction`). The accounts are in balance after every run (`balanced_run`).
-/

namespace SharedTensor

namespace Client

variable {c c' : Client}

/-! ## What is held is live -/

theorem Balanced.live {id : StorageId} (h : Balanced c) (held : 0 < c.holders id) :
    ∃ st, c.store.storages.get? id = some st := by
  cases hs : c.store.storages.get? id with
  | some st => exact ⟨st, rfl⟩
  | none =>
    have heq := h.references_eq id
    rw [Store.references_some, hs] at heq
    simp only [Option.map_none, Option.getD_none] at heq
    omega

theorem Balanced.live_of_mem_handles {id : StorageId} (h : Balanced c)
    (mem : ⟨some id⟩ ∈ c.handles) : ∃ st, c.store.storages.get? id = some st := by
  have hcount := Multiset.count_pos.2 mem
  refine h.live ?_
  unfold holders
  omega

theorem Balanced.live_of_mem_references {id : StorageId} (h : Balanced c)
    (mem : id ∈ c.references) : ∃ st, c.store.storages.get? id = some st := by
  have hcount := Multiset.count_pos.2 mem
  refine h.live ?_
  unfold holders
  omega

theorem Balanced.exists_of_mem_raw {r : RecordId} (h : Balanced c) (mem : r ∈ c.raw) :
    ∃ record, c.store.records.get? r = some record := by
  have hcount := Multiset.count_pos.2 mem
  refine h.exists_of_places r ?_
  unfold places
  omega

/-- The balance is kept along a chain of effects. -/
theorem Effects.balanced (es : Effects c c') (h : Balanced c) : Balanced c' := by
  induction es with
  | refl => exact h
  | tail _ e ih => exact e.balanced ih

/-- So is what every effect preserves while the accounts are in balance. -/
theorem Effects.preserve {P : Client → Prop} (es : Effects c c') (h : Balanced c) (start : P c)
    (effect : ∀ {c c' : Client}, Effect c c' → Balanced c → P c → P c') : P c' := by
  induction es with
  | refl => exact start
  | tail before e ih => exact effect e (Effects.balanced before h) ih

/-! ## Drops -/

/-- A drop gives up references one after the other. -/
theorem effects_drop {id : StorageId} (h : Balanced { c with references := id ::ₘ c.references }) :
    Effects { c with references := id ::ₘ c.references } { c with store := c.store.drop id } := by
  obtain ⟨s, hs⟩ : ∃ s, c.store = s := ⟨_, rfl⟩
  obtain ⟨st, live⟩ := h.live_of_mem_references (Multiset.mem_cons_self id _)
  rw [hs]
  induction s, id using Store.drop.induct generalizing c st with
  | case1 s id dead =>
    subst hs
    rw [dead] at live
    cases live
  | case2 s id st' found many =>
    subst hs
    rw [Store.drop_of_many found many]
    exact .single (.lower found many)
  | case3 s id st' found last left =>
    subst hs
    have e := Effect.retire (c := c) found last
    rw [Store.drop_of_last found last, left]
    rw [left] at e
    exact .single e
  | case4 s id st' found last other left ih =>
    subst hs
    have e := Effect.retire (c := c) found last
    have h' := e.balanced h
    rw [left] at e h'
    -- the reference that is left over is dropped in turn
    obtain ⟨st₂, live₂⟩ := h'.live_of_mem_references (Multiset.mem_cons_self other _)
    have es := ih (c := { c with store := (c.store.retire id st').1 }) h' rfl st₂ live₂
    rw [Store.drop_of_last found last, left]
    exact .head e es

/-- Dropping what is left of a release or a deletion. -/
theorem effects_dropLeft {left : Option StorageId} (h : Balanced (c.owe left)) :
    Effects (c.owe left) { c with store := c.store.dropAll left.toList } := by
  cases left with
  | none => exact .refl
  | some id => exact effects_drop h

theorem effects_dropHandle {handle : Handle}
    (h : Balanced { c with handles := handle ::ₘ c.handles }) :
    Effects { c with handles := handle ::ₘ c.handles }
      { c with store := c.store.dropHandle handle } := by
  obtain ⟨target⟩ := handle
  cases target with
  | none => exact .single .loseEmpty
  | some id =>
    have e := Effect.toReference (c := c) id
    exact .head e (effects_drop (e.balanced h))

theorem effects_dropRecord {r : RecordId} (h : Balanced { c with raw := r ::ₘ c.raw }) :
    Effects { c with raw := r ::ₘ c.raw } { c with store := c.store.dropRecord r } := by
  have e := Effect.delete (c := c) r
  exact .head e
    (effects_dropLeft (c := { c with store := (c.store.deleteRecord r).1 }) (e.balanced h))

/-! ## Moves -/

theorem effects_importRecord {r : RecordId} (h : Balanced { c with raw := r ::ₘ c.raw }) :
    Effects { c with raw := r ::ₘ c.raw } (c.importRecord r) := by
  obtain ⟨record, hr⟩ := h.exists_of_mem_raw (Multiset.mem_cons_self r _)
  rcases c.store.importRecord_cases (c := c.config) hr with ⟨f, hfail⟩ | ⟨d, hd, hok⟩
  · unfold importRecord
    rw [hfail]
    exact effects_dropRecord h
  · have valid := Store.importable_eq_ok hd
    unfold importRecord
    rw [hok]
    by_cases deletable : record.hasDeleter
    · rw [Store.announce, if_pos deletable]
      exact .single (.imported valid record.data r)
    · have warned := Effect.warn (c := { c with raw := r ::ₘ c.raw }) r
      rw [Store.announce, if_neg deletable]
      exact .head warned (.single
        (.imported (c := { c with store := c.store.tell (.undeletable r) }) valid record.data r))

theorem effects_retain {id : StorageId} {st : Storage}
    (live : c.store.storages.get? id = some st) :
    Effects c { c with store := c.store.retain id, handles := ⟨some id⟩ ::ₘ c.handles } :=
  .head (.retain live) (.single (.toHandle (c := { c with store := c.store.retain id }) id))

/-- A client with the tensors it has made out of fresh memory. -/
theorem effects_settle_allocated {result : Except Fault (Handle × Store)}
    (h : ∀ handle s', result = .ok (handle, s') → ∃ d block host, d.validate = .ok () ∧
      host.pool.allocated = c.store.host.pool.allocated + block.size ∧
      (handle, s') = { c.store with host }.add d (.toStart block) (.owned block)) :
    Effects c (c.settle result) := by
  cases result with
  | error f => exact .refl
  | ok made =>
    obtain ⟨handle, s'⟩ := made
    obtain ⟨d, block, host, valid, charged, heq⟩ := h handle s' rfl
    cases heq
    exact .single (.allocate valid charged)

theorem effects_view {handle : Handle} (request : ViewRequest) :
    Effects c (c.settle (c.store.view c.config handle request)) := by
  cases hv : c.store.view c.config handle request with
  | error f => exact .refl
  | ok made =>
    obtain ⟨fresh, s'⟩ := made
    obtain ⟨id, source, rfl, live, valid, heq⟩ := Store.view_eq_ok hv
    cases heq
    exact .head (.retain live) (.single
      (.view (c := { c with store := c.store.retain id }) valid (request.data.getD source.data) id))

theorem effects_adopt (handle : Handle) (owner : Owner) :
    Effects c (c.accept (c.store.adopt handle owner)) := by
  cases ha : c.store.adopt handle owner with
  | error f => exact .refl
  | ok s' =>
    obtain ⟨id, st, rfl, live, sole, unowned, rfl⟩ := Store.adopt_eq_ok ha
    exact .single (.adopt live sole unowned owner)

theorem effects_adoptNamed {handle : Handle} (name : String) (context : CallbackContext) :
    Effects c (c.accept (c.store.adoptNamed c.deleters handle name context)) := by
  cases ha : c.store.adoptNamed c.deleters handle name context with
  | error f => exact .refl
  | ok s' =>
    obtain ⟨callback, _, hadopt⟩ := Store.adoptNamed_eq_ok ha
    have es := effects_adopt (c := c) handle (.callback callback context)
    rwa [hadopt] at es

theorem effects_ofParts {d : Descriptor} {data : Pointer} :
    Effects c (c.settle (c.store.ofParts c.config d data)) := by
  cases hp : c.store.ofParts c.config d data with
  | error f => exact .refl
  | ok made =>
    obtain ⟨handle, s'⟩ := made
    obtain ⟨valid, heq⟩ := Store.ofParts_eq_ok hp
    cases heq
    exact .single (.borrow valid data)

theorem effects_export {handle : Handle} :
    Effects c (c.keep (c.store.exportRecord c.config handle)) := by
  cases he : c.store.exportRecord c.config handle with
  | error f => exact .refl
  | ok made =>
    obtain ⟨r, s'⟩ := made
    obtain ⟨id, st, header, rfl, live, heq⟩ := Store.exportRecord_eq_ok he
    cases heq
    exact .head (.retain live) (.single
      (.exported (c := { c with store := c.store.retain id }) id header))

theorem effects_place {size alignment : Nat} :
    Effects c (c.act (.place size alignment)) := by
  rw [act]
  split
  · exact .refl
  · next host placed =>
    refine .single (.host ?_)
    unfold Host.place at placed
    simp only [Option.ite_none_right_eq_some, Option.some.injEq, Prod.mk.injEq] at placed
    rw [← placed.2.2]

/-- A record that an owner holds is taken out of its hands first. -/
theorem effects_of_mem_managed {r : RecordId} (h : Balanced c) (mem : r ∈ c.managed)
    (use : Balanced { c with managed := c.managed.erase r, raw := r ::ₘ c.raw } →
      Effects { c with managed := c.managed.erase r, raw := r ::ₘ c.raw } c') : Effects c c' := by
  have e := Effect.toRaw (c := { c with managed := c.managed.erase r }) r
  rw [Multiset.cons_erase mem] at e
  exact .head e (use (e.balanced h))

theorem effects_of_mem_raw {r : RecordId} (h : Balanced c) (mem : r ∈ c.raw)
    (use : Balanced { c with raw := r ::ₘ c.raw.erase r } →
      Effects { c with raw := r ::ₘ c.raw.erase r } c') : Effects c c' := by
  rw [Multiset.cons_erase mem] at use
  exact use h

/-- **Every move is a chain of effects.** -/
theorem effects_step (h : Balanced c) (m : Move) : Effects c (c.step m) := by
  unfold step
  split
  case isFalse => exact .refl
  case isTrue permitted =>
    cases m with
    | default => exact .single .gainEmpty
    | allocate d =>
      exact effects_settle_allocated fun handle s' ok =>
        ⟨d, Store.allocate_eq_ok ok⟩
    | empty shape t device =>
      refine effects_settle_allocated fun handle s' ok => ?_
      obtain ⟨d, hd⟩ := Store.empty_eq_ok ok
      exact ⟨d, Store.allocate_eq_ok hd⟩
    | ofList t data shape =>
      exact effects_settle_allocated fun handle s' ok => Store.ofList_eq_ok ok
    | ofParts d data => exact effects_ofParts
    | clone handle =>
      obtain ⟨target⟩ := handle
      cases target with
      | none => exact .single .gainEmpty
      | some id =>
        obtain ⟨st, live⟩ := h.live_of_mem_handles (of_decide_eq_true permitted)
        exact effects_retain live
    | view handle request => exact effects_view request
    | drop handle =>
      have mem : handle ∈ c.handles := of_decide_eq_true permitted
      have hc : c = { c with handles := handle ::ₘ c.handles.erase handle } := by
        rw [Multiset.cons_erase mem]
      rw [hc] at h
      have es := effects_dropHandle (c := { c with handles := c.handles.erase handle }) h
      rwa [← hc] at es
    | adopt handle owner => exact effects_adopt handle owner
    | adoptNamed handle name context => exact effects_adoptNamed name context
    | register name callback =>
      exact .single (.settings c.config (c.deleters.set name callback))
    | exportHandle handle => exact effects_export
    | importManaged r =>
      have mem : r ∈ c.managed := of_decide_eq_true permitted
      exact effects_of_mem_managed h mem
        (effects_importRecord (c := { c with managed := c.managed.erase r }))
    | importRaw r =>
      have mem : r ∈ c.raw := of_decide_eq_true permitted
      exact effects_of_mem_raw h mem (effects_importRecord (c := { c with raw := c.raw.erase r }))
    | intoRaw r =>
      have mem : r ∈ c.managed := of_decide_eq_true permitted
      exact effects_of_mem_managed h mem fun _ => .refl
    | fromRaw r =>
      have mem : r ∈ c.raw := of_decide_eq_true permitted
      exact effects_of_mem_raw h mem fun _ =>
        .single (.toManaged (c := { c with raw := c.raw.erase r }) r)
    | dropManaged r =>
      have mem : r ∈ c.managed := of_decide_eq_true permitted
      exact effects_of_mem_managed h mem
        (effects_dropRecord (c := { c with managed := c.managed.erase r }))
    | delete r =>
      have mem : r ∈ c.raw := of_decide_eq_true permitted
      exact effects_of_mem_raw h mem (effects_dropRecord (c := { c with raw := c.raw.erase r }))
    | produce header producer hasDeleter =>
      exact .single (.produced header producer hasDeleter)
    | overwrite r header => exact .single (.overwrite r header)
    | retain id =>
      obtain ⟨st, live⟩ := Option.isSome_iff_exists.1 permitted
      exact .single (.retain live)
    | dropReference id =>
      have mem : id ∈ c.references := of_decide_eq_true permitted
      have hc : c = { c with references := id ::ₘ c.references.erase id } := by
        rw [Multiset.cons_erase mem]
      rw [hc] at h
      have es := effects_drop (c := { c with references := c.references.erase id }) h
      rwa [← hc] at es
    | configure config => exact .single (.settings config c.deleters)
    | place size alignment => exact effects_place
    | write memory => exact .single (.host rfl)

/-! ## Runs -/

theorem effects_run (h : Balanced c) (moves : List Move) : Effects c (c.run moves) := by
  induction moves generalizing c with
  | nil => exact .refl
  | cons m moves ih =>
    have es := effects_step h m
    exact es.trans (ih (es.balanced h))

/-- **The accounts are in balance after every run.** -/
theorem balanced_run (h : Balanced c) (moves : List Move) : Balanced (c.run moves) :=
  (effects_run h moves).balanced h

/-- What every effect preserves holds after every run. -/
theorem run_induction {P : Client → Prop} (h : Balanced c) (start : P c)
    (effect : ∀ {c c' : Client}, Effect c c' → Balanced c → P c → P c') (moves : List Move) :
    P (c.run moves) :=
  (effects_run h moves).preserve h start effect

end Client

end SharedTensor
