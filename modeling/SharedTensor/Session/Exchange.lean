import SharedTensor.Session.Memory
import SharedTensor.Store.Exchange

/-!
# The client's records

What a session does with interchange records: exporting and importing them, handing them over as
bare addresses, deleting them, and filling in or overwriting them as a producer would.
-/

namespace SharedTensor.Session

/-- A record of the tensor behind a handle. -/
def exportHandle (s : Session) (name slot : String) : Outcome × Session :=
  match s.handles.get? name with
  | none => (.skipped, s)
  | some h =>
    match s.store.exportRecord s.inForce h with
    | .error f => (.result (.error f), s)
    | .ok (r, store) => (.done, { s with store }.putManaged slot r)

/-- Makes a record that the session has let go of into a tensor. -/
def importRecord (s : Session) (r : RecordId) (slot : String) : Outcome × Session :=
  match s.store.importRecord s.inForce r with
  | (.error f, store) => (.result (.error f), { s with store })
  | (.ok h, store) => (.done, { s with store }.putHandle slot h)

def importManaged (s : Session) (name slot : String) : Outcome × Session :=
  match s.managed.get? name with
  | none => (.skipped, s)
  | some r => { s with managed := s.managed.erase name }.importRecord r slot

def importRaw (s : Session) (raw : RawChoice) (slot : String) : Outcome × Session :=
  match raw with
  | none => (.result (.error .noRecord), s)
  | some name =>
    match s.raw.get? name with
    | none => (.skipped, s)
    | some r => { s with raw := s.raw.erase name }.importRecord r slot

/-- Puts a record into the hands of an owner. -/
def fromRaw (s : Session) (raw : RawChoice) (slot : String) : Outcome × Session :=
  match raw with
  | none => (.result (.error .noRecord), s)
  | some name =>
    match s.raw.get? name with
    | none => (.skipped, s)
    | some r => (.done, { s with raw := s.raw.erase name }.putManaged slot r)

/-- Takes a record out of the hands of its owner. -/
def intoRaw (s : Session) (name slot : String) : Outcome × Session :=
  match s.managed.get? name with
  | none => (.skipped, s)
  | some r => (.done, { s with managed := s.managed.erase name }.putRaw slot r)

def dropManaged (s : Session) (name : String) : Outcome × Session :=
  match s.managed.get? name with
  | none => (.skipped, s)
  | some r => (.done, { s with managed := s.managed.erase name, store := s.store.dropRecord r })

/-- What can be told of a record in the hands of an owner. -/
def reportManaged (s : Session) (name : String) : Outcome :=
  match (s.managed.get? name).bind s.store.records.get? with
  | none => .skipped
  | some record => .record record.report

/-- The record in a raw slot. -/
def rawRecord? (s : Session) (name : String) : Option (RecordId × Record) :=
  (s.raw.get? name).bind fun r => (s.store.records.get? r).map (r, ·)

/-- Deletes a record. The session lets go of it also if it cannot be deleted. -/
def delete (s : Session) (name : String) : Outcome × Session :=
  match s.rawRecord? name with
  | none => (.skipped, s)
  | some (r, record) =>
    let s := { s with raw := s.raw.erase name }
    if record.hasDeleter then (.truth true, { s with store := s.store.dropRecord r })
    else (.truth false, s)

/-- Deleting the null address does nothing. -/
def deleteNull (s : Session) (name : String) : Outcome :=
  match s.rawRecord? name with
  | some (_, record) =>
    if record.origin = .exported && record.hasDeleter then .done else .skipped
  | none => .skipped

/-- A record that the producer of the given name hands over. -/
def produce (s : Session) (slot : String) (sketch : RecordSketch) : Outcome × Session :=
  match s.pointer? sketch.data with
  | none => (.skipped, s)
  | some data =>
    let record : Record := {
      data
      device := sketch.device
      rank := sketch.rank
      type := sketch.type
      shape := sketch.shape
      strides := sketch.strides
      byteOffset := sketch.byteOffset
      origin := .produced slot
      hasDeleter := sketch.hasDeleter
      context := none }
    let r := s.store.records.next
    let store := { s.store with records := s.store.records.add record }
    (.done, { s with store }.putRaw slot r)

/-- The record with the new values of a patch. -/
def RecordPatch.apply (p : RecordPatch) (r : Record) : Record :=
  { r with
    data := if p.clearData then .null else r.data
    device := ⟨p.deviceType.getD r.device.type, p.deviceId.getD r.device.id⟩
    rank := p.rank.getD r.rank
    type := ⟨p.code.getD r.type.code, p.bits.getD r.type.bits, p.lanes.getD r.type.lanes⟩
    shape := if p.clearShape then none else r.shape
    strides := if p.clearStrides then none else r.strides
    byteOffset := p.byteOffset.getD r.byteOffset
    hasDeleter := r.hasDeleter && !p.clearDeleter
    context := if p.clearContext then none else r.context }

/-- May the patch be made? The arrays of a record hold no more than its rank says, and only an
exported record has a context that can be cleared. -/
def RecordPatch.fits (p : RecordPatch) (r : Record) : Bool :=
  (p.rank.all fun rank => rank ≤ r.rank) && !(p.clearContext && r.origin ≠ .exported)

/-- Overwrites fields of a record. -/
def patch (s : Session) (name : String) (p : RecordPatch) : Outcome × Session :=
  match s.rawRecord? name with
  | none => (.skipped, s)
  | some (r, record) =>
    if p.fits record then
      (.done, { s with store := { s.store with records := s.store.records.update r p.apply } })
    else (.skipped, s)

end SharedTensor.Session
