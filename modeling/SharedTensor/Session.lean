import SharedTensor.Config.Desk
import SharedTensor.Scalar
import SharedTensor.Store.Adoption
import SharedTensor.Store.Drop
import SharedTensor.Store.Report

/-!
# Sessions

A session is a client of the library: it holds handles, records, raw references and memory under
names, manages a configuration, and registers callbacks. What it can do is a step (`Session.Step`),
what comes of a step is an outcome, and a history is a list of steps.

A result that goes into a slot is stored first; then what was there before is given up. When a step
fails the slot keeps what it held. A step that names an empty slot does nothing.
-/

namespace SharedTensor

/-- Memory that belongs to the client. -/
structure Region where
  block : Block
  /-- Has the memory been given to an owner who frees it? -/
  surrendered : Bool := false
  deriving DecidableEq, Inhabited

/-- A client of the library. -/
structure Session where
  store : Store := {}
  desk : Desk := {}
  deleters : Deleters := .builtin
  handles : Slots Handle := {}
  /-- Records held by an owner that deletes them in the end. -/
  managed : Slots RecordId := {}
  /-- Records known by their bare address. -/
  raw : Slots RecordId := {}
  /-- References to storages outside of any handle. -/
  references : Slots StorageId := {}
  regions : Slots Region := {}
  deriving Inhabited

namespace Session

/-- A descriptor as a client writes it down, with the texts of element type and device. -/
structure Sketch where
  shape : List Int64
  strides : Option (List Int64) := none
  byteOffset : UInt64 := 0
  elementType : String
  device : String
  deriving DecidableEq, Inhabited

/-- The element type and the device of a sketch; the element type is read first. -/
def Sketch.types (s : Sketch) : Except Fault (ElementType × Device) :=
  match ElementType.ofName s.elementType with
  | .error f => .error f
  | .ok t =>
    match Device.ofText s.device with
    | .error f => .error f
    | .ok d => .ok (t, d)

/-- The descriptor that a sketch describes. It is not validated. -/
def Sketch.descriptor (s : Sketch) : Except Fault Descriptor :=
  match s.types with
  | .error f => .error f
  | .ok (elementType, device) =>
    .ok {
      shape := s.shape
      strides := s.strides.getD (Layout.rowMajorStrides s.shape)
      byteOffset := s.byteOffset
      elementType
      device }

/-- What an owner's callback is called with: a word, or the start of a region. -/
inductive ContextChoice
  | word (value : UInt64)
  | region (name : String)
  deriving DecidableEq, Inhabited

/-- The owner to which memory is bound. -/
inductive OwnerChoice
  | closure (tag : String)
  | callback (label : String) (context : ContextChoice)
  /-- The host's own function for giving memory back. -/
  | hostMemory (region : String)
  /-- A callback by its name among the deleters. -/
  | named (name : String) (context : ContextChoice)
  deriving DecidableEq, Inhabited

/-- A record as a producer fills it in. -/
structure RecordSketch where
  /-- The region of the data and the distance from its start; null data if not given. -/
  data : Option (String × Int) := none
  shape : Option (List Int64) := none
  strides : Option (List Int64) := none
  rank : Int32
  type : TypeNumbers
  device : DeviceNumbers
  byteOffset : UInt64 := 0
  hasDeleter : Bool := true
  deriving DecidableEq, Inhabited

/-- New values for fields of a record. Pointers can only be set to null. -/
structure RecordPatch where
  rank : Option Int32 := none
  code : Option UInt8 := none
  bits : Option UInt8 := none
  lanes : Option UInt16 := none
  deviceType : Option Int32 := none
  deviceId : Option Int32 := none
  byteOffset : Option UInt64 := none
  clearData : Bool := false
  clearShape : Bool := false
  clearStrides : Bool := false
  clearDeleter : Bool := false
  clearContext : Bool := false
  deriving DecidableEq, Inhabited

/-- A raw record, or the null address. -/
abbrev RawChoice := Option String

/-- What a client can do. -/
inductive Step
  | default (slot : String)
  | empty (slot : String) (sketch : Sketch)
  | allocate (slot : String) (sketch : Sketch)
  | ofList (slot : String) (t : Scalar) (data : List t.Value) (shape : List Int64)
  /-- A tensor over a region, from a place told by its distance from the start, or over null. -/
  | ofParts (slot : String) (region : Option String) (distance : Int) (sketch : Sketch)
  | clone (handle slot : String)
  /-- A view; with a distance it starts so many bytes after the data of the source. -/
  | view (handle slot : String) (shape strides : Option (List Int64)) (distance : Option Int)
      (checkExtent : Option Bool)
  | importManaged (managed slot : String)
  | importRaw (raw : RawChoice) (slot : String)
  | drop (handle : String)
  | sameStorage (first second : String)
  | report (handle : String)
  | gather (handle : String) (t : Scalar)
  | elements (handle : String) (t : Scalar)
  | write (handle : String) (distance : Int) (bytes : List UInt8)
  | memory (slot : String) (bytes : List UInt8)
  | peek (region : String)
  | adopt (handle : String) (owner : OwnerChoice)
  | register (name label : String)
  | lookup (name : String)
  | exportHandle (handle slot : String)
  | reportManaged (managed : String)
  | dropManaged (managed : String)
  | intoRaw (managed slot : String)
  | fromRaw (raw : RawChoice) (slot : String)
  | delete (raw : String)
  /-- Calls the deleter of an exported record with the null address. -/
  | deleteNull (raw : String)
  | produce (slot : String) (sketch : RecordSketch)
  | patch (raw : String) (fields : RecordPatch)
  | retain (handle slot : String)
  | dropReference (reference : String)
  | configure (change : Config.Change)
  /-- Replaces the configuration by the default one with some settings changed. -/
  | configureAll (change : Config.Change)
  /-- Writes a text into a file and brings it into force. -/
  | configureFrom (path text : String)
  | config
  | configFile (path : String)
  | watch (name : String)
  | look (name : String)

/-- What comes of a step. -/
inductive Outcome
  | skipped
  | result (result : Except Fault Unit)
  | truth (value : Bool)
  | tensor (report : Except Fault TensorReport) (siblings : List String)
  | record (report : RecordReport)
  | elements (t : Scalar) (result : Except Fault (List t.Value))
  | bytes (bytes : List UInt8)
  | callback (callback : Option Callback)
  | config (config : Config)
  | text (text : Option String)
  | seen (changed : Bool) (newest : Config)

/-- The outcome of a step that cannot fail. -/
def Outcome.done : Outcome := .result (.ok ())

/-- The configuration in force. -/
def inForce (s : Session) : Config := s.desk.manager.config

/-! ## Slots -/

/-- Puts a handle into a slot and drops the one that was there. -/
def putHandle (s : Session) (slot : String) (h : Handle) : Session :=
  { s with
    handles := s.handles.set slot h
    store := match s.handles.get? slot with
      | none => s.store
      | some old => s.store.dropHandle old }

/-- Puts a record into the hands of an owner and gives up the one that was there. -/
def putManaged (s : Session) (slot : String) (r : RecordId) : Session :=
  { s with
    managed := s.managed.set slot r
    store := match s.managed.get? slot with
      | none => s.store
      | some old => s.store.dropRecord old }

/-- Puts the address of a record into a slot and gives up the record that was there. -/
def putRaw (s : Session) (slot : String) (r : RecordId) : Session :=
  { s with
    raw := s.raw.set slot r
    store := match s.raw.get? slot with
      | none => s.store
      | some old => s.store.dropRecord old }

end Session

end SharedTensor
