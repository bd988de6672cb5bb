import SharedTensor.Store.Drop

/-!
# Exchanging records

Exporting makes a record that holds a reference to the storage. Importing takes a record over: on
success it becomes part of a new storage, which deletes it on release, and on failure it is deleted
at once.
-/

namespace SharedTensor.Store

/-- The header of the tensor behind a handle. -/
def header (s : Store) (h : Handle) : Except Fault Header :=
  match s.resolve h "storage" with
  | .error f => .error f
  | .ok (_, st) => Header.ofDescriptor st.descriptor st.data

/-- A record of the tensor behind a handle. The strides of a row-major tensor are left out if the
configuration says so. -/
def exportRecord (s : Store) (c : Config) (h : Handle) : Except Fault (RecordId × Store) :=
  match s.resolve h "storage" with
  | .error f => .error f
  | .ok (id, st) =>
    match Header.ofDescriptor st.descriptor st.data with
    | .error f => .error f
    | .ok header =>
      let leaveOut := st.descriptor.isCompact && c.interop.omitCompactStrides
      let record : Record := { header with
        strides := if leaveOut then none else header.strides
        origin := .exported
        hasDeleter := true
        context := some id }
      .ok (s.records.next,
        { s.retain id with
          records := s.records.add record
          counters := { s.counters with exports := s.counters.exports + 1 } })

/-- What is said about a record that cannot be imported. -/
def importContext : OperationContext where
  operation := "from_dlpack"
  suggestions := ["Check the producer's ndim, shape, dtype and device fields"]

/-- The descriptor under which a record can be imported. -/
def importable (c : Config) (record : Record) : Except Fault Descriptor :=
  match record.descriptor with
  | .error f => .error (.inContext f importContext)
  | .ok d =>
    if record.data.isNull ∧ 0 < d.count ∧ c.safety.checkNullData then
      .error (.nullRecordData d.shape)
    else .ok d

/-- Makes a record into a storage. The record is taken over also if that fails. -/
def importRecord (s : Store) (c : Config) (r : RecordId) : Except Fault Handle × Store :=
  match s.records.get? r with
  | none => (.error .noRecord, s)
  | some record =>
    match importable c record with
    | .error f => (.error f, s.dropRecord r)
    | .ok d =>
      let s := if record.hasDeleter then s else s.tell (.undeletable r)
      let (h, s) := s.add d record.data (.foreign r)
      (.ok h, s)

end SharedTensor.Store
