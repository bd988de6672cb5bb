import Mathlib.Data.Multiset.AddSub
import SharedTensor.Store.Adoption
import SharedTensor.Store.Create
import SharedTensor.Store.Exchange
import SharedTensor.Store.View

/-!
# Clients at large

A client holds handles, records and raw references, any number of each, and uses them in any order,
move by move (`Client.step`, `Client.run`). Where a session keeps everything under names and writes
it down in texts, a client has the values themselves, so a move can carry any descriptor, any
pointer and any header. What holds of the store after every list of moves holds however the library
is used.

The contract is that a client only uses what it holds (`Client.permits`); a move that breaks it is
ignored.
-/

namespace SharedTensor

/-- A store together with all that is held outside of it. -/
structure Client where
  store : Store := {}
  config : Config := {}
  deleters : Deleters := .builtin
  handles : Multiset Handle := 0
  /-- Records held by an owner that deletes them in the end. -/
  managed : Multiset RecordId := 0
  /-- Records known by their bare address. -/
  raw : Multiset RecordId := 0
  /-- References to storages outside of any handle. -/
  references : Multiset StorageId := 0

namespace Client

/-- What a client can do. -/
inductive Move
  | default
  | allocate (d : Descriptor)
  | empty (shape : List Int64) (t : ElementType) (device : Device)
  | ofList (t : Scalar) (data : List t.Value) (shape : List Int64)
  | ofParts (d : Descriptor) (data : Pointer)
  | clone (h : Handle)
  | view (h : Handle) (request : ViewRequest)
  | drop (h : Handle)
  | adopt (h : Handle) (owner : Owner)
  | adoptNamed (h : Handle) (name : String) (context : CallbackContext)
  | register (name : String) (callback : Callback)
  | exportHandle (h : Handle)
  | importManaged (r : RecordId)
  | importRaw (r : RecordId)
  | intoRaw (r : RecordId)
  | fromRaw (r : RecordId)
  | dropManaged (r : RecordId)
  /-- Calls the deleter of a record, if it has one. -/
  | delete (r : RecordId)
  /-- A record of someone else's comes in. -/
  | produce (header : Header) (producer : String) (hasDeleter : Bool)
  /-- Overwrites what a record says of its tensor; deleter and context stay. -/
  | overwrite (r : RecordId) (header : Header)
  | retain (id : StorageId)
  | dropReference (id : StorageId)
  | configure (config : Config)
  /-- Room is set aside for memory of the client's own. -/
  | place (size alignment : Nat)
  /-- Whatever has been written into memory. -/
  | write (memory : Memory)

/-- Does the contract of the library allow the move? -/
def permits (c : Client) : Move → Bool
  | .clone h | .view h _ | .drop h | .adopt h _ | .adoptNamed h _ _ | .exportHandle h =>
    h ∈ c.handles
  | .importManaged r | .intoRaw r | .dropManaged r => r ∈ c.managed
  | .importRaw r | .fromRaw r | .delete r => r ∈ c.raw
  | .retain id => (c.store.storages.get? id).isSome
  | .dropReference id => id ∈ c.references
  | _ => true

/-- Takes up a fresh handle, if there is one. -/
def settle (c : Client) : Except Fault (Handle × Store) → Client
  | .error _ => c
  | .ok (h, store) => { c with store, handles := h ::ₘ c.handles }

/-- Takes up a fresh record, if there is one. -/
def keep (c : Client) : Except Fault (RecordId × Store) → Client
  | .error _ => c
  | .ok (r, store) => { c with store, managed := r ::ₘ c.managed }

/-- Goes on with a changed store, if there is one. -/
def accept (c : Client) : Except Fault Store → Client
  | .error _ => c
  | .ok store => { c with store }

/-- Makes a record that the client has let go of into a tensor. -/
def importRecord (c : Client) (r : RecordId) : Client :=
  match c.store.importRecord c.config r with
  | (.error _, store) => { c with store }
  | (.ok h, store) => { c with store, handles := h ::ₘ c.handles }

/-- What a move does. -/
def act (c : Client) : Move → Client
  | .default => { c with handles := {} ::ₘ c.handles }
  | .allocate d => c.settle (c.store.allocate c.config d)
  | .empty shape t device => c.settle (c.store.empty c.config shape t device)
  | .ofList t data shape => c.settle (c.store.ofList c.config t data shape)
  | .ofParts d data => c.settle (c.store.ofParts c.config d data)
  | .clone h => { c with store := c.store.clone h, handles := h ::ₘ c.handles }
  | .view h request => c.settle (c.store.view c.config h request)
  | .drop h => { c with handles := c.handles.erase h, store := c.store.dropHandle h }
  | .adopt h owner => c.accept (c.store.adopt h owner)
  | .adoptNamed h name context => c.accept (c.store.adoptNamed c.deleters h name context)
  | .register name callback => { c with deleters := c.deleters.set name callback }
  | .exportHandle h => c.keep (c.store.exportRecord c.config h)
  | .importManaged r => { c with managed := c.managed.erase r }.importRecord r
  | .importRaw r => { c with raw := c.raw.erase r }.importRecord r
  | .intoRaw r => { c with managed := c.managed.erase r, raw := r ::ₘ c.raw }
  | .fromRaw r => { c with raw := c.raw.erase r, managed := r ::ₘ c.managed }
  | .dropManaged r => { c with managed := c.managed.erase r, store := c.store.dropRecord r }
  | .delete r => { c with raw := c.raw.erase r, store := c.store.dropRecord r }
  | .produce header producer hasDeleter =>
    let record : Record :=
      { header with origin := .produced producer, hasDeleter, context := none }
    { c with
      store := { c.store with records := c.store.records.add record }
      raw := c.store.records.next ::ₘ c.raw }
  | .overwrite r header =>
    let records := c.store.records.update r fun record => { record with toHeader := header }
    { c with store := { c.store with records } }
  | .retain id => { c with store := c.store.retain id, references := id ::ₘ c.references }
  | .dropReference id =>
    { c with references := c.references.erase id, store := c.store.drop id }
  | .configure config => { c with config }
  | .place size alignment =>
    match c.store.host.place size alignment with
    | none => c
    | some (_, host) => { c with store := { c.store with host } }
  | .write memory => { c with store := { c.store with host := { c.store.host with memory } } }

/-- One move, if the contract allows it. -/
def step (c : Client) (m : Move) : Client :=
  if c.permits m then c.act m else c

theorem step_of_permits {c : Client} {m : Move} (h : c.permits m) : c.step m = c.act m :=
  if_pos h

/-- The client after a list of moves. -/
def run (c : Client) (moves : List Move) : Client :=
  moves.foldl step c

@[simp] theorem run_nil (c : Client) : c.run [] = c := rfl

@[simp] theorem run_cons (c : Client) (m : Move) (moves : List Move) :
    c.run (m :: moves) = (c.step m).run moves := rfl

theorem run_append (c : Client) (before after : List Move) :
    c.run (before ++ after) = (c.run before).run after :=
  List.foldl_append

end Client

end SharedTensor
