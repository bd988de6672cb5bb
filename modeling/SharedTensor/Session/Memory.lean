import SharedTensor.Session

/-!
# The client's memory

Regions of memory that a session makes and looks into, and the owners to which it binds them.
-/

namespace SharedTensor.Session

/-- The pointer to a place in a region, or to nowhere. Nothing if there is no such region. -/
def pointer? (s : Session) : Option (String × Int) → Option Pointer
  | none => some .null
  | some (name, distance) =>
    (s.regions.get? name).map fun r => (Pointer.toStart r.block).advance distance

/-- Memory of the client's with the given bytes, aligned to a cache line. -/
def makeRegion (s : Session) (slot : String) (bytes : List UInt8) : Outcome × Session :=
  match s.store.host.place bytes.length 64 with
  | none => (.skipped, s)
  | some (block, host) =>
    let host := { host with memory := host.memory.write block.start bytes }
    (.done, { s with
      store := { s.store with host }
      regions := s.regions.set slot { block } })

/-- The bytes of a region, until it is given away. -/
def peek (s : Session) (name : String) : Outcome :=
  match s.regions.get? name with
  | some ⟨block, false⟩ => .bytes (s.store.host.memory.read block.start block.size)
  | _ => .skipped

/-- Writes bytes into the buffer behind a handle, at a distance from its data. -/
def write (s : Session) (name : String) (distance : Int) (bytes : List UInt8) :
    Outcome × Session :=
  match (s.handles.get? name).map fun h => s.store.resolve h "storage" with
  | some (.ok (_, st)) =>
    let start : Int := st.data.address.toNat + distance
    if st.data.block.holds start bytes.length then
      let memory := s.store.host.memory.write start.toNat bytes
      (.done, { s with store := { s.store with host := { s.store.host with memory } } })
    else (.skipped, s)
  | _ => (.skipped, s)

/-! ## Owners -/

/-- The context of a callback, if the region that it names exists. -/
def context? (s : Session) : ContextChoice → Option CallbackContext
  | .word value => some (.word value)
  | .region name => (s.regions.get? name).map fun _ => .region name

/-- Marks a region as given away if its new owner frees memory. -/
def surrender (s : Session) (callback : Callback) (context : CallbackContext) : Session :=
  match callback, context with
  | .hostFree, .region name =>
    match s.regions.get? name with
    | none => s
    | some r => { s with regions := s.regions.set name { r with surrendered := true } }
  | _, _ => s

/-- Binds a handle to an owner that is called back. -/
def adoptCallback (s : Session) (callback : Option Callback) (context : CallbackContext) :
    Except Fault Store → Outcome × Session
  | .error f => (.result (.error f), s)
  | .ok store =>
    match callback with
    | none => (.done, { s with store })
    | some callback => (.done, { s with store }.surrender callback context)

/-- Binds the memory behind a handle to an owner. -/
def adopt (s : Session) (name : String) (owner : OwnerChoice) : Outcome × Session :=
  match s.handles.get? name with
  | none => (.skipped, s)
  | some h =>
    match owner with
    | .closure tag =>
      match s.store.adopt h (.closure tag) with
      | .error f => (.result (.error f), s)
      | .ok store => (.done, { s with store })
    | .callback label context =>
      match s.context? context with
      | none => (.skipped, s)
      | some context =>
        s.adoptCallback (some (.custom label)) context
          (s.store.adopt h (.callback (.custom label) context))
    | .hostMemory region =>
      match s.context? (.region region) with
      | none => (.skipped, s)
      | some context =>
        s.adoptCallback (some .hostFree) context (s.store.adopt h (.callback .hostFree context))
    | .named deleter context =>
      match s.context? context with
      | none => (.skipped, s)
      | some context =>
        s.adoptCallback (s.deleters.get? deleter) context
          (s.store.adoptNamed s.deleters h deleter context)

end SharedTensor.Session
