import SharedTensor.Host
import SharedTensor.Interchange
import SharedTensor.Reach
import SharedTensor.Table

/-!
# Storages and records

The state that tensors share. A storage stands for one buffer under one descriptor and counts the
references to it; when the last one goes, it does what its release says. A view refers to the
storage that it was cut from, and a storage made from an interchange record refers to the record,
which in turn refers to a storage if this library exported it. What others are told on the way
is kept as a list of notices, each with the number of the storage or record that it is about.
-/

namespace SharedTensor

/-- What runs when an outside owner gets a buffer back. -/
inductive Callback
  /-- A function of the owner's, known by its label. -/
  | custom (label : String)
  /-- The function that gives memory back to the host. -/
  | hostFree
  deriving DecidableEq, Inhabited

/-- What a callback is called with. -/
inductive CallbackContext
  | word (value : UInt64)
  /-- The start of a region of the caller's memory. -/
  | region (name : String)
  deriving DecidableEq, Inhabited

/-- The party that must be told when an adopted buffer is no longer in use. -/
inductive Owner
  | callback (callback : Callback) (context : CallbackContext)
  | closure (tag : String)
  deriving DecidableEq, Inhabited

/-- The context of an owner, if it has one. -/
def Owner.context? : Owner → Option CallbackContext
  | callback _ context => some context
  | closure _ => none

/-- What a storage does once its last reference is gone. -/
inductive Release
  /-- Frees the buffer, which was allocated for it. -/
  | owned (block : Block)
  /-- Nothing: the memory is the caller's. -/
  | unowned
  /-- Drops its reference to the storage that it is a view of. -/
  | view (parent : StorageId)
  /-- Deletes the record that it was made from. -/
  | foreign (record : RecordId)
  /-- Tells the owner of the memory. -/
  | external (owner : Owner)
  deriving DecidableEq, Inhabited

/-- The kind of a release, as callers are told. -/
def Release.kind : Release → ReleaseKind
  | owned _ => .owned
  | unowned => .unowned
  | view _ => .view
  | foreign _ => .foreign
  | external _ => .external

/-- A buffer under a descriptor, with a count of the references to it. -/
structure Storage where
  data : Pointer
  descriptor : Descriptor
  /-- The bytes that are known to belong to the buffer. -/
  extent : Extent
  release : Release
  references : Nat
  deriving DecidableEq, Inhabited

/-- Something that parties outside the store are told. -/
inductive Notice
  /-- The owner of an adopted buffer is told that the storage is released. -/
  | released (storage : StorageId) (owner : Owner)
  /-- The producer of a record is told to delete it. -/
  | deleted (record : RecordId) (producer : String)
  /-- A record without a deleter has been made into a storage; it will not be deleted. -/
  | undeletable (record : RecordId)
  deriving DecidableEq, Inhabited

/-- How many storages and exported records there are, and how many storages there were. -/
structure Counters where
  live : Nat := 0
  released : Nat := 0
  exports : Nat := 0
  deriving DecidableEq, Inhabited

/-- All storages and records, the host's memory, and what has been told to others. -/
structure Store where
  storages : Table Storage := {}
  records : Table Record := {}
  host : Host := {}
  counters : Counters := {}
  /-- The first notice first. -/
  notices : List Notice := []
  deriving Inhabited

/-- A reference to a storage, or an empty handle. -/
structure Handle where
  target : Option StorageId := none
  deriving DecidableEq, Inhabited

namespace Store

/-- The storage behind a handle. An empty handle has none, whatever the operation needs it for. -/
def resolve (s : Store) (h : Handle) (operation : String) : Except Fault (StorageId × Storage) :=
  match h.target.bind fun id => (s.storages.get? id).map (id, ·) with
  | none => .error (.emptyHandle operation)
  | some found => .ok found

/-- The number of references to the storage behind a handle. -/
def references (s : Store) (h : Handle) : Nat :=
  match h.target.bind s.storages.get? with
  | none => 0
  | some st => st.references

/-- The storage that an exported record refers to, if the record is one. -/
def exporter? (s : Store) (r : RecordId) : Option Storage :=
  ((s.records.get? r).bind Record.exporter?).bind s.storages.get?

/-- The extent of a new storage. A view and a record of our own have the extent of the storage that
they come from; for the caller's memory the descriptor vouches. -/
def extentFor (s : Store) (d : Descriptor) (data : Pointer) : Release → Extent
  | .owned block => .ofBlock block
  | .view parent =>
    match s.storages.get? parent with
    | some st => st.extent
    | none => .empty
  | .foreign record =>
    match s.exporter? record with
    | some st => st.extent
    | none => .vouched d data
  | .unowned | .external _ => .vouched d data

/-- Tells something to others. -/
def tell (s : Store) (n : Notice) : Store :=
  { s with notices := s.notices ++ [n] }

/-- A new storage, and the handle that holds its only reference. -/
def add (s : Store) (d : Descriptor) (data : Pointer) (release : Release) : Handle × Store :=
  (⟨some s.storages.next⟩,
    { s with
      storages := s.storages.add {
        data
        descriptor := d
        extent := s.extentFor d data release
        release
        references := 1 }
      counters := { s.counters with live := s.counters.live + 1 } })

/-- One more reference to a storage. -/
def retain (s : Store) (id : StorageId) : Store :=
  { s with storages := s.storages.update id fun st => { st with references := st.references + 1 } }

/-- A copy of a handle, which is one more reference to its storage. -/
def clone (s : Store) (h : Handle) : Store :=
  match h.target with
  | none => s
  | some id => s.retain id

end Store

end SharedTensor
