import SharedTensor.Proofs.Client.Run
import SharedTensor.Proofs.Slots
import SharedTensor.Session.Step

/-!
# Sessions are clients

A session is a client that keeps what it holds under names (`Session.client`). Each of its steps
comes to a few moves of the client: what goes into a slot is taken up first, and what was there
before is given up (`follows_act`). So whatever holds after every run of a client holds after every
run of a session (`client_run`), as long as no record loses its deleter or its context to a patch.
-/

namespace SharedTensor

namespace Client

/-- Is there a run from one client to the other? -/
def Leads (c c' : Client) : Prop :=
  ∃ moves, c' = c.run moves

variable {c c' c'' : Client}

theorem Leads.refl (c : Client) : Leads c c := ⟨[], rfl⟩

theorem Leads.trans (h : Leads c c') (h' : Leads c' c'') : Leads c c'' := by
  obtain ⟨before, rfl⟩ := h
  obtain ⟨after, rfl⟩ := h'
  exact ⟨before ++ after, (run_append c before after).symm⟩

/-- A move that the contract allows is a run. -/
theorem Leads.act {m : Move} (h : c.permits m) : Leads c (c.act m) :=
  ⟨[m], (step_of_permits h).symm⟩

end Client

namespace Session

open Client (Leads)

/-- What a session holds, the names forgotten. -/
def client (s : Session) : Client where
  store := s.store
  config := s.inForce
  deleters := s.deleters
  handles := s.handles.values
  managed := s.managed.values
  raw := s.raw.values
  references := s.references.values

@[simp] theorem client_store (s : Session) : s.client.store = s.store := rfl

@[simp] theorem client_config (s : Session) : s.client.config = s.inForce := rfl

@[simp] theorem client_handles (s : Session) : s.client.handles = s.handles.values := rfl

@[simp] theorem client_managed (s : Session) : s.client.managed = s.managed.values := rfl

@[simp] theorem client_raw (s : Session) : s.client.raw = s.raw.values := rfl

@[simp] theorem client_references (s : Session) : s.client.references = s.references.values := rfl

/-- All slots stand in the order of their names. -/
structure Sorted (s : Session) : Prop where
  handles : s.handles.Sorted
  managed : s.managed.Sorted
  raw : s.raw.Sorted
  references : s.references.Sorted

/-- Does the step leave every record its deleter and its context? -/
def Step.isIntact : Step → Bool
  | .patch _ fields => !fields.clearDeleter && !fields.clearContext
  | _ => true

/-- A session in order that the client of another one can come to. -/
def Follows (c : Client) (s : Session) : Prop :=
  s.Sorted ∧ Leads c s.client

variable {s : Session}

theorem Follows.of_leads {c c' : Client} (h : Leads c c') (f : Follows c' s) : Follows c s :=
  ⟨f.1, h.trans f.2⟩

theorem Follows.of_act {m : Client.Move} (h : s.client.permits m) {s' : Session}
    (f : Follows (s.client.act m) s') : Follows s.client s' :=
  f.of_leads (.act h)

theorem follows_self (sorted : s.Sorted) : Follows s.client s :=
  ⟨sorted, .refl _⟩

/-! ## Slots -/

/-- A value goes into a slot, and the one that was there is given up. -/
theorem leads_put {α : Type} [DecidableEq α] (hold : Store → Multiset α → Client)
    (giveUp : Store → α → Store)
    (given : ∀ store held old, Leads (hold store (old ::ₘ held)) (hold (giveUp store old) held))
    {slots : Slots α} (sorted : slots.Sorted) (slot : String) (value : α) {store store' : Store}
    (free : slots.get? slot = none → store' = store)
    (taken : ∀ old, slots.get? slot = some old → store' = giveUp store old) :
    Leads (hold store (value ::ₘ slots.values)) (hold store' (slots.set slot value).values) := by
  cases hs : slots.get? slot with
  | none =>
    rw [Slots.coe_values_set_of_none hs, free hs]
    exact .refl _
  | some old =>
    rw [← Slots.cons_values_set sorted hs, taken old hs]
    exact given store _ old

theorem follows_putHandle (sorted : s.Sorted) (slot : String) (h : Handle) :
    Follows { s.client with handles := h ::ₘ s.client.handles } (s.putHandle slot h) := by
  refine ⟨{ sorted with handles := sorted.handles.set slot h }, ?_⟩
  refine leads_put (fun store handles => { s.client with store, handles }) Store.dropHandle
    (fun store held old => ?_) sorted.handles slot h (fun free => ?_) (fun old taken => ?_)
  · have permitted : { s.client with store, handles := old ::ₘ held }.permits (.drop old) :=
      decide_eq_true (Multiset.mem_cons_self old held)
    have leads := Leads.act permitted
    rwa [Client.act, Multiset.erase_cons_head] at leads
  · simp only [putHandle, free, client_store]
  · simp only [putHandle, taken, client_store]

theorem follows_putManaged (sorted : s.Sorted) (slot : String) (r : RecordId) :
    Follows { s.client with managed := r ::ₘ s.client.managed } (s.putManaged slot r) := by
  refine ⟨{ sorted with managed := sorted.managed.set slot r }, ?_⟩
  refine leads_put (fun store managed => { s.client with store, managed }) Store.dropRecord
    (fun store held old => ?_) sorted.managed slot r (fun free => ?_) (fun old taken => ?_)
  · have permitted : { s.client with store, managed := old ::ₘ held }.permits (.dropManaged old) :=
      decide_eq_true (Multiset.mem_cons_self old held)
    have leads := Leads.act permitted
    rwa [Client.act, Multiset.erase_cons_head] at leads
  · simp only [putManaged, free, client_store]
  · simp only [putManaged, taken, client_store]

theorem follows_putRaw (sorted : s.Sorted) (slot : String) (r : RecordId) :
    Follows { s.client with raw := r ::ₘ s.client.raw } (s.putRaw slot r) := by
  refine ⟨{ sorted with raw := sorted.raw.set slot r }, ?_⟩
  refine leads_put (fun store raw => { s.client with store, raw }) Store.dropRecord
    (fun store held old => ?_) sorted.raw slot r (fun free => ?_) (fun old taken => ?_)
  · have permitted : { s.client with store, raw := old ::ₘ held }.permits (.delete old) :=
      decide_eq_true (Multiset.mem_cons_self old held)
    have leads := Leads.act permitted
    rwa [Client.act, Multiset.erase_cons_head] at leads
  · simp only [putRaw, free, client_store]
  · simp only [putRaw, taken, client_store]

/-- A fresh handle is settled if there is one. -/
theorem follows_settle (sorted : s.Sorted) (slot : String)
    {result : Except Fault (Handle × Store)} (leads : Leads s.client (s.client.settle result)) :
    Follows s.client (s.settle slot result).2 := by
  cases result with
  | error f => exact follows_self sorted
  | ok made =>
    obtain ⟨h, store⟩ := made
    have sorted' : { s with store }.Sorted := ⟨sorted.1, sorted.2, sorted.3, sorted.4⟩
    exact (follows_putHandle sorted' slot h).of_leads leads

/-! ## Tensors -/

theorem follows_cloneHandle (sorted : s.Sorted) (name slot : String) :
    Follows s.client (s.cloneHandle name slot).2 := by
  unfold cloneHandle
  split
  · exact follows_self sorted
  · next h hh =>
    have permitted : s.client.permits (.clone h) :=
      decide_eq_true (Slots.mem_values_of_get? sorted.handles hh)
    exact .of_act permitted
      (follows_putHandle (s := { s with store := s.store.clone h }) { sorted with } slot h)

theorem follows_dropHandle (sorted : s.Sorted) (name : String) :
    Follows s.client (s.dropHandle name).2 := by
  unfold dropHandle
  split
  · exact follows_self sorted
  · next h hh =>
    have permitted : s.client.permits (.drop h) :=
      decide_eq_true (Slots.mem_values_of_get? sorted.handles hh)
    refine ⟨{ sorted with handles := sorted.handles.erase name }, ?_⟩
    have leads := Leads.act permitted
    rw [Client.act, client_handles,
      ← Slots.coe_values_erase sorted.handles hh] at leads
    exact leads

theorem follows_view (sorted : s.Sorted) (name slot : String) (shape strides : Option (List Int64))
    (distance : Option Int) (checkExtent : Option Bool) :
    Follows s.client (s.view name slot shape strides distance checkExtent).2 := by
  unfold view
  split
  · exact follows_self sorted
  · next h hh =>
    have permitted (request : ViewRequest) : s.client.permits (.view h request) :=
      decide_eq_true (Slots.mem_values_of_get? sorted.handles hh)
    split
    · exact follows_settle sorted slot (.act (permitted _))
    · split
      · exact follows_self sorted
      · split
        · exact follows_self sorted
        · exact follows_settle sorted slot (.act (permitted _))

theorem follows_ofParts (sorted : s.Sorted) (slot : String) (region : Option String)
    (distance : Int) (sketch : Sketch) :
    Follows s.client (s.ofParts slot region distance sketch).2 := by
  unfold ofParts
  split
  · exact follows_self sorted
  · next data _ =>
    cases sketch.descriptor with
    | error f => exact follows_self sorted
    | ok d => exact follows_settle sorted slot (.act (m := .ofParts d data) rfl)

theorem follows_retain (sorted : s.Sorted) (balanced : s.client.Balanced) (name slot : String) :
    Follows s.client (s.retain name slot).2 := by
  unfold retain
  split
  · next id htarget hfree =>
    obtain ⟨h, hh, hid⟩ := Option.bind_eq_some_iff.1 htarget
    obtain rfl : h = ⟨some id⟩ := congrArg Handle.mk hid
    obtain ⟨st, live⟩ :=
      balanced.live_of_mem_handles (Slots.mem_values_of_get? sorted.handles hh)
    have permitted : s.client.permits (.retain id) := Option.isSome_iff_exists.2 ⟨st, live⟩
    refine ⟨{ sorted with references := sorted.references.set slot id }, ?_⟩
    have leads := Leads.act permitted
    rw [Client.act, client_references,
      ← Slots.coe_values_set_of_none hfree] at leads
    exact leads
  · exact follows_self sorted

theorem follows_dropReference (sorted : s.Sorted) (name : String) :
    Follows s.client (s.dropReference name).2 := by
  unfold dropReference
  split
  · exact follows_self sorted
  · next id hid =>
    have permitted : s.client.permits (.dropReference id) :=
      decide_eq_true (Slots.mem_values_of_get? sorted.references hid)
    refine ⟨{ sorted with references := sorted.references.erase name }, ?_⟩
    have leads := Leads.act permitted
    rw [Client.act, client_references,
      ← Slots.coe_values_erase sorted.references hid] at leads
    exact leads

/-! ## Memory -/

theorem follows_makeRegion (sorted : s.Sorted) (slot : String) (bytes : List UInt8) :
    Follows s.client (s.makeRegion slot bytes).2 := by
  unfold makeRegion
  split
  · exact follows_self sorted
  · next block host placed =>
    refine ⟨{ sorted with }, ?_⟩
    have leads := Leads.act (c := s.client) (m := .place bytes.length 64) rfl
    rw [Client.act, client_store, placed] at leads
    exact leads.trans (.act (m := .write (host.memory.write block.start bytes)) rfl)

theorem follows_write (sorted : s.Sorted) (name : String) (distance : Int) (bytes : List UInt8) :
    Follows s.client (s.write name distance bytes).2 := by
  unfold write
  split
  · simp only
    split
    · exact ⟨{ sorted with }, .act (m := .write _) rfl⟩
    · exact follows_self sorted
  · exact follows_self sorted

theorem client_surrender (s : Session) (callback : Callback) (context : CallbackContext) :
    (s.surrender callback context).client = s.client := by
  unfold surrender
  split
  · split <;> rfl
  · rfl

theorem Sorted.surrender (sorted : s.Sorted) (callback : Callback) (context : CallbackContext) :
    (s.surrender callback context).Sorted := by
  unfold Session.surrender
  split
  · split
    · exact sorted
    · exact { sorted with }
  · exact sorted

/-- The memory is bound to the owner if the adoption succeeds. -/
theorem follows_adoptCallback (sorted : s.Sorted) (callback : Option Callback)
    (context : CallbackContext) {result : Except Fault Store}
    (leads : Leads s.client (s.client.accept result)) :
    Follows s.client (s.adoptCallback callback context result).2 := by
  cases result with
  | error f => exact follows_self sorted
  | ok store =>
    have sorted' : { s with store }.Sorted := { sorted with }
    cases callback with
    | none => exact ⟨sorted', leads⟩
    | some callback =>
      refine ⟨sorted'.surrender callback context, ?_⟩
      change Leads s.client ({ s with store }.surrender callback context).client
      rw [client_surrender]
      exact leads

theorem follows_adopt (sorted : s.Sorted) (name : String) (owner : OwnerChoice) :
    Follows s.client (s.adopt name owner).2 := by
  unfold adopt
  split
  · exact follows_self sorted
  · next h hh =>
    have held := Slots.mem_values_of_get? sorted.handles hh
    have permitted (owner : Owner) : s.client.permits (.adopt h owner) := decide_eq_true held
    have permitted' (deleter : String) (context : CallbackContext) :
        s.client.permits (.adoptNamed h deleter context) := decide_eq_true held
    split
    · next tag =>
      have leads : Leads s.client _ := .act (permitted (.closure tag))
      rw [Client.act] at leads
      split
      · exact follows_self sorted
      · next store hadopt =>
        rw [client_store, hadopt] at leads
        exact ⟨{ sorted with }, leads⟩
    · split
      · exact follows_self sorted
      · exact follows_adoptCallback sorted _ _ (.act (permitted _))
    · split
      · exact follows_self sorted
      · exact follows_adoptCallback sorted _ _ (.act (permitted _))
    · split
      · exact follows_self sorted
      · exact follows_adoptCallback sorted _ _ (.act (permitted' _ _))

/-! ## Records -/

theorem follows_exportHandle (sorted : s.Sorted) (name slot : String) :
    Follows s.client (s.exportHandle name slot).2 := by
  unfold exportHandle
  split
  · exact follows_self sorted
  · next h hh =>
    have permitted : s.client.permits (.exportHandle h) :=
      decide_eq_true (Slots.mem_values_of_get? sorted.handles hh)
    have leads := Leads.act permitted
    rw [Client.act] at leads
    split
    · exact follows_self sorted
    · next r store hexport =>
      rw [client_store, client_config, hexport] at leads
      exact (follows_putManaged (s := { s with store }) { sorted with } slot r).of_leads leads

/-- A fresh handle is settled if the record could be imported. -/
theorem follows_importRecord (sorted : s.Sorted) {c : Client} {r : RecordId} (slot : String)
    (leads : Leads c (s.client.importRecord r)) : Follows c (s.importRecord r slot).2 := by
  unfold importRecord
  unfold Client.importRecord at leads
  split
  · next store himport =>
    rw [client_store, client_config, himport] at leads
    exact ⟨{ sorted with }, leads⟩
  · next h store himport =>
    rw [client_store, client_config, himport] at leads
    exact (follows_putHandle (s := { s with store }) { sorted with } slot h).of_leads leads

theorem follows_importManaged (sorted : s.Sorted) (name slot : String) :
    Follows s.client (s.importManaged name slot).2 := by
  unfold importManaged
  split
  · exact follows_self sorted
  · next r hr =>
    have permitted : s.client.permits (.importManaged r) :=
      decide_eq_true (Slots.mem_values_of_get? sorted.managed hr)
    have leads := Leads.act permitted
    rw [Client.act, client_managed,
      ← Slots.coe_values_erase sorted.managed hr] at leads
    exact follows_importRecord (s := { s with managed := s.managed.erase name })
      { sorted with managed := sorted.managed.erase name } slot leads

theorem follows_importRaw (sorted : s.Sorted) (raw : RawChoice) (slot : String) :
    Follows s.client (s.importRaw raw slot).2 := by
  unfold importRaw
  split
  · exact follows_self sorted
  · next name =>
    split
    · exact follows_self sorted
    · next r hr =>
      have permitted : s.client.permits (.importRaw r) :=
        decide_eq_true (Slots.mem_values_of_get? sorted.raw hr)
      have leads := Leads.act permitted
      rw [Client.act, client_raw,
        ← Slots.coe_values_erase sorted.raw hr] at leads
      exact follows_importRecord (s := { s with raw := s.raw.erase name })
        { sorted with raw := sorted.raw.erase name } slot leads

theorem follows_fromRaw (sorted : s.Sorted) (raw : RawChoice) (slot : String) :
    Follows s.client (s.fromRaw raw slot).2 := by
  unfold fromRaw
  split
  · exact follows_self sorted
  · next name =>
    split
    · exact follows_self sorted
    · next r hr =>
      have permitted : s.client.permits (.fromRaw r) :=
        decide_eq_true (Slots.mem_values_of_get? sorted.raw hr)
      have leads := Leads.act permitted
      rw [Client.act, client_raw,
        ← Slots.coe_values_erase sorted.raw hr] at leads
      exact (follows_putManaged (s := { s with raw := s.raw.erase name })
        { sorted with raw := sorted.raw.erase name } slot r).of_leads leads

theorem follows_intoRaw (sorted : s.Sorted) (name slot : String) :
    Follows s.client (s.intoRaw name slot).2 := by
  unfold intoRaw
  split
  · exact follows_self sorted
  · next r hr =>
    have permitted : s.client.permits (.intoRaw r) :=
      decide_eq_true (Slots.mem_values_of_get? sorted.managed hr)
    have leads := Leads.act permitted
    rw [Client.act, client_managed,
      ← Slots.coe_values_erase sorted.managed hr] at leads
    exact (follows_putRaw (s := { s with managed := s.managed.erase name })
      { sorted with managed := sorted.managed.erase name } slot r).of_leads leads

theorem follows_dropManaged (sorted : s.Sorted) (name : String) :
    Follows s.client (s.dropManaged name).2 := by
  unfold dropManaged
  split
  · exact follows_self sorted
  · next r hr =>
    have permitted : s.client.permits (.dropManaged r) :=
      decide_eq_true (Slots.mem_values_of_get? sorted.managed hr)
    refine ⟨{ sorted with managed := sorted.managed.erase name }, ?_⟩
    have leads := Leads.act permitted
    rw [Client.act, client_managed,
      ← Slots.coe_values_erase sorted.managed hr] at leads
    exact leads

/-- A raw slot with a record holds its number, and the store knows it. -/
theorem rawRecord?_eq_some {name : String} {r : RecordId} {record : Record}
    (h : s.rawRecord? name = some (r, record)) :
    s.raw.get? name = some r ∧ s.store.records.get? r = some record := by
  obtain ⟨r', hr, h⟩ := Option.bind_eq_some_iff.1 h
  obtain ⟨record', hrecord, heq⟩ := Option.map_eq_some_iff.1 h
  obtain ⟨rfl, rfl⟩ := Prod.mk.inj heq
  exact ⟨hr, hrecord⟩

/-- To delete a record without a deleter is to let go of it. -/
theorem follows_delete (sorted : s.Sorted) (name : String) :
    Follows s.client (s.delete name).2 := by
  unfold delete
  split
  · exact follows_self sorted
  · next r record found =>
    obtain ⟨hr, hrecord⟩ := rawRecord?_eq_some found
    have permitted : s.client.permits (.delete r) :=
      decide_eq_true (Slots.mem_values_of_get? sorted.raw hr)
    have sorted' : { s with raw := s.raw.erase name }.Sorted :=
      { sorted with raw := sorted.raw.erase name }
    have leads := Leads.act permitted
    rw [Client.act, client_raw,
      ← Slots.coe_values_erase sorted.raw hr] at leads
    simp only
    split
    · exact ⟨{ sorted' with }, leads⟩
    · next hasDeleter =>
      have kept : s.client.store.dropRecord r = s.store := by
        rw [client_store, Store.dropRecord,
          Store.deleteRecord_of_not_hasDeleter hrecord hasDeleter]
        rfl
      rw [kept] at leads
      exact ⟨sorted', leads⟩

theorem follows_produce (sorted : s.Sorted) (slot : String) (sketch : RecordSketch) :
    Follows s.client (s.produce slot sketch).2 := by
  unfold produce
  split
  · exact follows_self sorted
  · next data _ =>
    let header : Header := {
      data
      device := sketch.device
      rank := sketch.rank
      type := sketch.type
      shape := sketch.shape
      strides := sketch.strides
      byteOffset := sketch.byteOffset }
    have leads : Leads s.client _ := .act (m := .produce header slot sketch.hasDeleter) rfl
    exact (follows_putRaw
      (s := { s with store := s.store.receive (header.produced slot sketch.hasDeleter) })
      { sorted with } slot s.store.records.next).of_leads leads

theorem follows_patch (sorted : s.Sorted) (name : String) {p : RecordPatch}
    (intact : (!p.clearDeleter && !p.clearContext) = true) :
    Follows s.client (s.patch name p).2 := by
  unfold patch
  split
  · exact follows_self sorted
  · next r record found =>
    obtain ⟨-, hrecord⟩ := rawRecord?_eq_some found
    split
    · have said : p.apply record = { record with toHeader := (p.apply record).toHeader } := by
        rw [Bool.and_eq_true, Bool.not_eq_true', Bool.not_eq_true'] at intact
        simp [RecordPatch.apply, intact]
      refine ⟨{ sorted with }, ?_⟩
      have leads := Leads.act (c := s.client) (m := .overwrite r (p.apply record).toHeader) rfl
      rw [Client.act, client_store,
        Table.update_congr hrecord said.symm] at leads
      exact leads
    · exact follows_self sorted

/-! ## Steps -/

/-- Whatever happens at the desk, the client only sees another configuration. -/
theorem follows_desk (sorted : s.Sorted) (desk : Desk) : Follows s.client { s with desk } :=
  ⟨{ sorted with }, .act (m := .configure desk.manager.config) rfl⟩

/-- **A step comes to a few moves of the client.** -/
theorem follows_act (sorted : s.Sorted) (balanced : s.client.Balanced) (x : Step)
    (intact : x.isIntact) : Follows s.client (s.act x).2 := by
  cases x with
  | default slot => exact .of_act (m := .default) rfl (follows_putHandle sorted slot {})
  | empty slot sketch =>
    refine follows_settle sorted slot ?_
    split
    · exact .refl _
    · next t device _ => exact .act (m := .empty sketch.shape t device) rfl
  | allocate slot sketch =>
    refine follows_settle sorted slot ?_
    split
    · exact .refl _
    · next d _ => exact .act (m := .allocate d) rfl
  | ofList slot t data shape =>
    exact follows_settle sorted slot (.act (m := .ofList t data shape) rfl)
  | ofParts slot region distance sketch => exact follows_ofParts sorted slot region distance sketch
  | clone handle slot => exact follows_cloneHandle sorted handle slot
  | view handle slot shape strides distance check =>
    exact follows_view sorted handle slot shape strides distance check
  | importManaged managed slot => exact follows_importManaged sorted managed slot
  | importRaw raw slot => exact follows_importRaw sorted raw slot
  | drop handle => exact follows_dropHandle sorted handle
  | write handle distance bytes => exact follows_write sorted handle distance bytes
  | memory slot bytes => exact follows_makeRegion sorted slot bytes
  | adopt handle owner => exact follows_adopt sorted handle owner
  | register name label =>
    exact ⟨{ sorted with }, .act (m := .register name (.custom label)) rfl⟩
  | exportHandle handle slot => exact follows_exportHandle sorted handle slot
  | dropManaged managed => exact follows_dropManaged sorted managed
  | intoRaw managed slot => exact follows_intoRaw sorted managed slot
  | fromRaw raw slot => exact follows_fromRaw sorted raw slot
  | delete raw => exact follows_delete sorted raw
  | produce slot sketch => exact follows_produce sorted slot sketch
  | patch raw fields => exact follows_patch sorted raw intact
  | retain handle slot => exact follows_retain sorted balanced handle slot
  | dropReference reference => exact follows_dropReference sorted reference
  | configure new => exact follows_desk sorted _
  | configureAll new =>
    rw [Session.act]
    split
    · exact follows_self sorted
    · exact follows_desk sorted _
  | configureFrom path text => exact follows_desk sorted _
  | watch name => exact follows_desk sorted _
  | look name =>
    rw [Session.act]
    split
    · exact follows_desk sorted _
    · exact follows_desk sorted _
  | sameStorage | report | gather | elements | peek | lookup | reportManaged | deleteNull | config
  | configFile => exact follows_self sorted

theorem follows_step (sorted : s.Sorted) (balanced : s.client.Balanced) {x : Step}
    (intact : x.isIntact) : Follows s.client (s.step x).2 := by
  have acted := follows_act sorted balanced x intact
  exact (follows_desk acted.1 _).of_leads acted.2

/-! ## Runs -/

theorem follows_run (sorted : s.Sorted) (balanced : s.client.Balanced) {xs : List Step}
    (intact : ∀ x ∈ xs, x.isIntact) : Follows s.client (s.run xs) := by
  induction xs generalizing s with
  | nil => exact follows_self sorted
  | cons x xs ih =>
    obtain ⟨sorted', leads⟩ := follows_step sorted balanced (intact x List.mem_cons_self)
    have balanced' : (s.step x).2.client.Balanced := by
      obtain ⟨moves, reached⟩ := leads
      rw [reached]
      exact Client.balanced_run balanced moves
    exact (ih sorted' balanced' fun y hy => intact y (List.mem_cons_of_mem x hy)).of_leads leads

/-- **Every run of a session is a run of a client**, whatever its desk is like. -/
theorem client_run (desk : Desk) {xs : List Step} (intact : ∀ x ∈ xs, x.isIntact) :
    ∃ moves, (({ desk } : Session).run xs).client = ({} : Client).run moves := by
  have configured : ({ desk } : Session).client =
      ({} : Client).run [.configure desk.manager.config] := rfl
  have balanced : ({ desk } : Session).client.Balanced := by
    rw [configured]
    exact Client.balanced_run Client.balanced_empty _
  have sorted : ({ desk } : Session).Sorted :=
    ⟨Slots.sorted_empty, Slots.sorted_empty, Slots.sorted_empty, Slots.sorted_empty⟩
  obtain ⟨-, moves, reached⟩ := follows_run sorted balanced intact
  exact ⟨_, by rw [reached, configured, ← Client.run_append]⟩

end Session

end SharedTensor
