import Mathlib.Logic.Relation
import SharedTensor.Proofs.Client
import SharedTensor.Proofs.Operations

/-!
# What moves come to

Every move of a client is a chain of small effects (`Client.Effect`), each of which changes one
count, one storage or one record. A reference that an operation holds while it is at work stands
among the references of the client until the operation has found a place for it: a view is a
retained reference that goes into a new storage, and a drop gives up one reference after the other
until it comes to a storage that has others. So whatever every effect preserves holds of every
client.
-/

namespace SharedTensor

namespace Client

/-- Takes over the reference that is left of a release or a deletion, if any. -/
def owe (c : Client) : Option StorageId → Client
  | none => c
  | some id => { c with references := id ::ₘ c.references }

/-- The new storage, held by a handle. -/
def add (c : Client) (d : Descriptor) (data : Pointer) (release : Release) : Client :=
  { c with
    store := (c.store.add d data release).2
    handles := ⟨some c.store.storages.next⟩ ::ₘ c.handles }

/-- The small changes that moves are made of. -/
inductive Effect : Client → Client → Prop
  | settings {c : Client} (config : Config) (deleters : Deleters) :
      Effect c { c with config, deleters }
  /-- Memory may change, but not the account of the pool. -/
  | host {c : Client} {host : Host} (pool : host.pool = c.store.host.pool) :
      Effect c { c with store := { c.store with host } }
  | gainEmpty {c : Client} : Effect c { c with handles := {} ::ₘ c.handles }
  | loseEmpty {c : Client} : Effect { c with handles := {} ::ₘ c.handles } c
  | toHandle {c : Client} (id : StorageId) :
      Effect { c with references := id ::ₘ c.references }
        { c with handles := ⟨some id⟩ ::ₘ c.handles }
  | toReference {c : Client} (id : StorageId) :
      Effect { c with handles := ⟨some id⟩ ::ₘ c.handles }
        { c with references := id ::ₘ c.references }
  | toRaw {c : Client} (r : RecordId) :
      Effect { c with managed := r ::ₘ c.managed } { c with raw := r ::ₘ c.raw }
  | toManaged {c : Client} (r : RecordId) :
      Effect { c with raw := r ::ₘ c.raw } { c with managed := r ::ₘ c.managed }
  | retain {c : Client} {id : StorageId} {st : Storage}
      (live : c.store.storages.get? id = some st) :
      Effect c { c with store := c.store.retain id, references := id ::ₘ c.references }
  | lower {c : Client} {id : StorageId} {st : Storage}
      (live : c.store.storages.get? id = some st) (many : 1 < st.references) :
      Effect { c with references := id ::ₘ c.references } { c with store := c.store.lower id }
  | retire {c : Client} {id : StorageId} {st : Storage}
      (live : c.store.storages.get? id = some st) (last : ¬ 1 < st.references) :
      Effect { c with references := id ::ₘ c.references }
        ({ c with store := (c.store.retire id st).1 }.owe (c.store.retire id st).2)
  /-- Fresh memory is charged to the pool. -/
  | allocate {c : Client} {d : Descriptor} {block : Block} {host : Host}
      (valid : d.validate = .ok ())
      (charged : host.pool.allocated = c.store.host.pool.allocated + block.size) :
      Effect c ({ c with store := { c.store with host } }.add d (.toStart block) (.owned block))
  | borrow {c : Client} {d : Descriptor} (valid : d.validate = .ok ()) (data : Pointer) :
      Effect c (c.add d data .unowned)
  | view {c : Client} {d : Descriptor} (valid : d.validate = .ok ()) (data : Pointer)
      (id : StorageId) :
      Effect { c with references := id ::ₘ c.references } (c.add d data (.view id))
  | imported {c : Client} {d : Descriptor} (valid : d.validate = .ok ()) (data : Pointer)
      (r : RecordId) :
      Effect { c with raw := r ::ₘ c.raw } (c.add d data (.foreign r))
  | adopt {c : Client} {id : StorageId} {st : Storage}
      (live : c.store.storages.get? id = some st) (sole : st.references = 1)
      (unowned : st.release = .unowned) (owner : Owner) :
      Effect c { c with store := c.store.bind id owner }
  | exported {c : Client} (id : StorageId) (header : Header) :
      Effect { c with references := id ::ₘ c.references }
        { c with
          store := c.store.publish (header.exported id)
          managed := c.store.records.next ::ₘ c.managed }
  | produced {c : Client} (header : Header) (producer : String) (hasDeleter : Bool) :
      Effect c { c with
        store := c.store.receive (header.produced producer hasDeleter)
        raw := c.store.records.next ::ₘ c.raw }
  | overwrite {c : Client} (r : RecordId) (header : Header) :
      Effect c { c with store := c.store.overwrite r header }
  | warn {c : Client} (r : RecordId) :
      Effect c { c with store := c.store.tell (.undeletable r) }
  | delete {c : Client} (r : RecordId) :
      Effect { c with raw := r ::ₘ c.raw }
        ({ c with store := (c.store.deleteRecord r).1 }.owe (c.store.deleteRecord r).2)

/-- A chain of effects. -/
abbrev Effects : Client → Client → Prop := Relation.ReflTransGen Effect

end Client

end SharedTensor
