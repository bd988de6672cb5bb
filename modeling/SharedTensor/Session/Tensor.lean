import SharedTensor.Session.Memory
import SharedTensor.Store.Create
import SharedTensor.Store.Read
import SharedTensor.Store.View

/-!
# The client's tensors

What a session does with handles: making them, viewing, copying and dropping them, and asking about
the tensors behind them.
-/

namespace SharedTensor.Session

/-- Stores a fresh handle, or passes on why there is none. -/
def settle (s : Session) (slot : String) :
    Except Fault (Handle × Store) → Outcome × Session
  | .error f => (.result (.error f), s)
  | .ok (h, store) => (.done, { s with store }.putHandle slot h)

/-- A view of the tensor behind a handle. A place of its own can only be told from data that are
part of a buffer. -/
def view (s : Session) (name slot : String) (shape strides : Option (List Int64))
    (distance : Option Int) (checkExtent : Option Bool) : Outcome × Session :=
  match s.handles.get? name with
  | none => (.skipped, s)
  | some h =>
    match distance with
    | none => s.settle slot (s.store.view s.inForce h { shape, strides, checkExtent })
    | some distance =>
      match s.store.resolve h "storage" with
      | .error _ => (.skipped, s)
      | .ok (_, st) =>
        if st.data.isNull || st.data.block.start = 0 then (.skipped, s)
        else
          let data := some (st.data.advance distance)
          s.settle slot (s.store.view s.inForce h { shape, strides, data, checkExtent })

/-- A tensor over memory of the client's. -/
def ofParts (s : Session) (slot : String) (region : Option String) (distance : Int)
    (sketch : Sketch) : Outcome × Session :=
  match s.pointer? (region.map (·, distance)) with
  | none => (.skipped, s)
  | some data =>
    s.settle slot <|
      match sketch.descriptor with
      | .error f => .error f
      | .ok d => s.store.ofParts s.inForce d data

/-! ## Handles -/

def cloneHandle (s : Session) (name slot : String) : Outcome × Session :=
  match s.handles.get? name with
  | none => (.skipped, s)
  | some h => (.done, { s with store := s.store.clone h }.putHandle slot h)

def dropHandle (s : Session) (name : String) : Outcome × Session :=
  match s.handles.get? name with
  | none => (.skipped, s)
  | some h => (.done, { s with handles := s.handles.erase name, store := s.store.dropHandle h })

/-- Do two handles share a storage? An empty handle shares none. -/
def sameStorage (s : Session) (first second : String) : Outcome :=
  match s.handles.get? first, s.handles.get? second with
  | some a, some b => .truth (a.target.isSome && a.target = b.target)
  | _, _ => .skipped

/-- What can be told of the tensor behind a handle. For a view the handles of its source are told as
well. -/
def reportHandle (s : Session) (name : String) : Outcome :=
  match s.handles.get? name with
  | none => .skipped
  | some h =>
    let report := s.store.report h
    let siblings := match report.map (·.release) with
      | .ok (.view parent) => s.handles.namesWhere fun h => h.target = some parent
      | _ => []
    .tensor report siblings

/-! ## Raw references -/

/-- Takes one more reference to the storage behind a handle, outside of any handle. -/
def retain (s : Session) (name slot : String) : Outcome × Session :=
  match (s.handles.get? name).bind (·.target), s.references.get? slot with
  | some id, none =>
    (.done, { s with store := s.store.retain id, references := s.references.set slot id })
  | _, _ => (.skipped, s)

def dropReference (s : Session) (name : String) : Outcome × Session :=
  match s.references.get? name with
  | none => (.skipped, s)
  | some id =>
    (.done, { s with references := s.references.erase name, store := s.store.drop id })

/-! ## Elements -/

/-- The elements of the tensor behind a handle, read in the given way. -/
def readWith (s : Session) (name : String) (t : Scalar)
    (read : (t : Scalar) → Handle → Except Fault (List t.Value)) : Outcome :=
  match s.handles.get? name with
  | none => .skipped
  | some h => .elements t (read t h)

end SharedTensor.Session
