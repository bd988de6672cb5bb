import SharedTensor.Proofs.Drop
import SharedTensor.Proofs.Interchange
import SharedTensor.Proofs.Kinds
import SharedTensor.Proofs.Layout

/-!
# What comes of an import

A record can be taken in if and only if its header denotes a tensor (`Header.Importable`), and the
tensor is then the one that the header describes (`Header.Describes`). All checks come after the
record has been handed over, so a record that is refused is deleted on the spot
(`import_takes_over_or_deletes`): its deleter runs in the call, and nothing else happens.
-/

namespace SharedTensor

/-! ## Numbers of element types and devices -/

theorem TypeNumbers.elementType_eq_ok_iff {n : TypeNumbers} {t : ElementType} :
    n.elementType = .ok t ↔
      n.lanes ≠ 0 ∧ t.kind.code = n.code ∧ t.bits = n.bits ∧ t.lanes = n.lanes := by
  obtain ⟨kind, bits, lanes⟩ := t
  rw [← ElementKind.ofCode?_eq_some_iff, elementType, ElementType.kindOfCode]
  split
  · simp [*]
  · cases ElementKind.ofCode? n.code with
    | none => simp
    | some k => simp [*, eq_comm]

theorem DeviceNumbers.device_eq_ok_iff {n : DeviceNumbers} {d : Device} :
    n.device = .ok d ↔ d.kind.code = n.type ∧ d.index = n.id := by
  obtain ⟨kind, index⟩ := d
  rw [← DeviceKind.ofCode?_eq_some_iff, device, Device.kindOfCode]
  cases DeviceKind.ofCode? n.type with
  | none => simp
  | some k => simp [eq_comm]

/-- What is made of valid parts begins at the start of the buffer. -/
theorem Descriptor.make_eq_ok_iff {shape : List Int64} {strides : Option (List Int64)}
    {t : ElementType} {device : Device} {d : Descriptor} :
    make shape strides t device = .ok d ↔
      d.validate = .ok () ∧
        d = ⟨⟨shape, strides.getD (Layout.rowMajorStrides shape)⟩, 0, t, device⟩ := by
  refine ⟨make_eq_ok, ?_⟩
  rintro ⟨valid, rfl⟩
  rw [make]
  simp only [valid]

/-! ## Headers -/

namespace Header

variable {h : Header}

/-- The arrays hold as many numbers as the rank says, which is for the producer to see to. -/
structure Filled (h : Header) : Prop where
  shape : ∀ xs, h.shape = some xs → h.rank.toInt ≤ xs.length
  strides : ∀ xs, h.strides = some xs → h.rank.toInt ≤ xs.length

/-- The dimensions that count, none if the array is missing. -/
def dims (h : Header) : List Int64 :=
  h.counted (h.shape.getD [])

/-- The strides that count, those of the row-major layout if the array is missing. -/
def steps (h : Header) : List Int64 :=
  match h.strides with
  | none => Layout.rowMajorStrides h.dims
  | some xs => h.counted xs

/-- The descriptor says what the header says. -/
structure Describes (h : Header) (d : Descriptor) : Prop where
  shape : d.shape = h.dims
  strides : d.strides = h.steps
  byteOffset : d.byteOffset = h.byteOffset
  kind : d.elementType.kind.code = h.type.code
  bits : d.elementType.bits = h.type.bits
  lanes : d.elementType.lanes = h.type.lanes
  device : d.device.kind.code = h.device.type
  index : d.device.index = h.device.id

/-- The header can be read: a rank, the dimensions that it asks for, a known type with lanes, a
known device, and a number of elements. -/
structure Readable (h : Header) : Prop where
  rank : 0 ≤ h.rank.toInt
  shape : h.shape ≠ none ∨ h.rank.toInt = 0
  lanes : h.type.lanes ≠ 0
  type : ∃ kind : ElementKind, kind.code = h.type.code
  device : ∃ kind : DeviceKind, kind.code = h.device.type
  count : ∃ n, Layout.countOf h.dims = .ok n

/-- The header can be read, and there are data for its elements or nobody asks for them. -/
structure Importable (h : Header) (c : Config) : Prop extends Readable h where
  data : ∀ n, Layout.countOf h.dims = .ok n →
    ¬ (h.data.isNull ∧ 0 < n ∧ c.safety.checkNullData)

theorem rankOf_eq_ok_iff {n : Nat} : h.rankOf = .ok n ↔ h.rank.toInt = n := by
  unfold rankOf
  split
  · simp
    omega
  · simp only [Except.ok.injEq]
    omega

theorem shapeOf_eq_ok_iff {shape : List Int64} :
    h.shapeOf = .ok shape ↔
      0 ≤ h.rank.toInt ∧ (h.shape ≠ none ∨ h.rank.toInt = 0) ∧ shape = h.dims := by
  rw [shapeOf]
  by_cases nonneg : 0 ≤ h.rank.toInt
  · obtain ⟨n, rank⟩ := Int.eq_ofNat_of_zero_le nonneg
    rw [rankOf_eq_ok_iff.2 rank]
    cases n with
    | zero =>
      have none : h.dims = [] := by simp [dims, counted, rank]
      simp [rank, none, eq_comm]
    | succ n =>
      have pos : h.rank.toInt ≠ 0 := by omega
      cases hs : h.shape with
      | none => simp [pos]
      | some xs => simp [dims, hs, nonneg, eq_comm]
  · rw [rankOf, if_pos (Int.not_le.1 nonneg)]
    simp [nonneg]

theorem stridesOf_eq_ok (nonneg : 0 ≤ h.rank.toInt) :
    ∃ strides, h.stridesOf = .ok strides ∧
      strides.getD (Layout.rowMajorStrides h.dims) = h.steps := by
  obtain ⟨n, rank⟩ := Int.eq_ofNat_of_zero_le nonneg
  rw [stridesOf, rankOf_eq_ok_iff.2 rank, steps]
  cases n with
  | zero =>
    -- without dimensions both arrays count for nothing
    have none (xs : List Int64) : h.counted xs = [] := by simp [counted, rank]
    refine ⟨_, rfl, ?_⟩
    rw [dims, none]
    split
    · rfl
    · rw [none]
      rfl
  | succ n =>
    refine ⟨_, rfl, ?_⟩
    cases h.strides <;> rfl

/-- Arrays that are filled yield as many strides as dimensions. -/
theorem Filled.length_eq (filled : h.Filled)
    (shape : h.shape ≠ none ∨ h.rank.toInt = 0) : h.dims.length = h.steps.length := by
  have length (xs : List Int64) (enough : h.rank.toInt ≤ xs.length) :
      (h.counted xs).length = h.rank.toInt.toNat := by
    rw [counted, List.length_take]
    omega
  have dims : h.dims.length = h.rank.toInt.toNat := by
    refine length _ ?_
    cases hs : h.shape with
    | none => simp_all
    | some xs => exact filled.shape xs hs
  rw [steps]
  split
  · exact (Layout.length_rowMajorStrides _).symm
  · next xs hs => rw [dims, length xs (filled.strides xs hs)]

/-- **A header is read as the descriptor that says the same.** -/
theorem descriptor_eq_ok_iff (filled : h.Filled) {d : Descriptor} :
    h.descriptor = .ok d ↔ h.Readable ∧ h.Describes d := by
  simp only [descriptor, bind_eq_ok_iff]
  constructor
  · rintro ⟨shape, hshape, strides, hstrides, t, ht, device, hdevice, made, hmade, hd⟩
    obtain ⟨nonneg, present, rfl⟩ := shapeOf_eq_ok_iff.1 hshape
    obtain ⟨strides', hstrides', steps⟩ := stridesOf_eq_ok nonneg
    obtain rfl : strides = strides' := Except.ok.inj (hstrides.symm.trans hstrides')
    obtain ⟨lanes, kind, bits, sameLanes⟩ := TypeNumbers.elementType_eq_ok_iff.1 ht
    obtain ⟨deviceKind, index⟩ := DeviceNumbers.device_eq_ok_iff.1 hdevice
    obtain ⟨valid, rfl⟩ := Descriptor.make_eq_ok_iff.1 hmade
    obtain rfl := Except.ok.inj hd
    obtain ⟨_, counted⟩ := Layout.validate_eq_ok_iff.1 valid
    exact ⟨⟨nonneg, present, lanes, ⟨_, kind⟩, ⟨_, deviceKind⟩, counted⟩,
      ⟨rfl, steps, rfl, kind, bits, sameLanes, deviceKind, index⟩⟩
  · rintro ⟨readable, describes⟩
    obtain ⟨strides, hstrides, steps⟩ := stridesOf_eq_ok readable.rank
    have valid : (d.withByteOffset 0).validate = .ok () := by
      refine Layout.validate_eq_ok_iff.2 ⟨?_, ?_⟩
      · change d.shape.length = d.strides.length
        rw [describes.shape, describes.strides]
        exact filled.length_eq readable.shape
      · change ∃ n, Layout.countOf d.shape = .ok n
        rw [describes.shape]
        exact readable.count
    refine ⟨_, shapeOf_eq_ok_iff.2 ⟨readable.rank, readable.shape, rfl⟩, _, hstrides,
      d.elementType, ?_, d.device, ?_, _, Descriptor.make_eq_ok_iff.2 ⟨valid, ?_⟩, ?_⟩
    · exact TypeNumbers.elementType_eq_ok_iff.2
        ⟨readable.lanes, describes.kind, describes.bits, describes.lanes⟩
    · exact DeviceNumbers.device_eq_ok_iff.2 ⟨describes.device, describes.index⟩
    · rw [steps, ← describes.shape, ← describes.strides]
      rfl
    · rw [← describes.byteOffset]
      rfl

/-- A header that can be read describes a tensor. -/
theorem Readable.exists_describes (readable : h.Readable) : ∃ d, h.Describes d := by
  obtain ⟨kind, hkind⟩ := readable.type
  obtain ⟨device, hdevice⟩ := readable.device
  exact ⟨⟨⟨h.dims, h.steps⟩, h.byteOffset, ⟨kind, h.type.bits, h.type.lanes⟩,
    ⟨device, h.device.id⟩⟩, ⟨rfl, rfl, rfl, hkind, rfl, rfl, hdevice, rfl⟩⟩

end Header

namespace Store

variable {s : Store} {c : Config} {record : Record} {r : RecordId}

theorem importable_eq_ok_iff (filled : record.Filled) {d : Descriptor} :
    importable c record = .ok d ↔ record.Importable c ∧ record.Describes d := by
  rw [importable]
  constructor
  · intro ok
    split at ok
    · cases ok
    · next d' hd =>
      split at ok
      · cases ok
      · next data =>
        obtain rfl := Except.ok.inj ok
        obtain ⟨readable, describes⟩ := (Header.descriptor_eq_ok_iff filled).1 hd
        refine ⟨⟨readable, fun n hn => ?_⟩, describes⟩
        have count : d'.count = n := Layout.count_eq (describes.shape ▸ hn)
        rwa [count] at data
  · rintro ⟨⟨readable, data⟩, describes⟩
    rw [(Header.descriptor_eq_ok_iff filled).2 ⟨readable, describes⟩]
    obtain ⟨n, hn⟩ := readable.count
    have count : d.count = n := Layout.count_eq (describes.shape ▸ hn)
    simp only [count, if_neg (data n hn)]

/-! ## Deleters -/

theorem dropRecord_of_produced {producer : String} (found : s.records.get? r = some record)
    (deletable : record.hasDeleter) (produced : record.origin = .produced producer) :
    s.dropRecord r =
      { s with
        records := s.records.erase r
        notices := s.notices ++ [.deleted r producer] } := by
  rw [dropRecord, deleteRecord_of_produced found deletable produced]
  rfl

/-- An export that is dropped gives back the reference that it holds. -/
theorem dropRecord_of_exported (found : s.records.get? r = some record)
    (deletable : record.hasDeleter) (exported : record.origin = .exported) :
    s.dropRecord r =
      { s with
        records := s.records.erase r
        counters := { s.counters with exports := s.counters.exports - 1 } }.dropAll
          record.context.toList := by
  rw [dropRecord, deleteRecord_of_exported found deletable exported]

theorem dropRecord_of_not_hasDeleter (found : s.records.get? r = some record)
    (undeletable : ¬ record.hasDeleter) : s.dropRecord r = s := by
  simp [dropRecord, deleteRecord, found, undeletable, dropAll]

theorem next_dropRecord (s : Store) (r : RecordId) :
    (s.dropRecord r).storages.next = s.storages.next := by
  rw [dropRecord, next_dropAll, deleteRecord_storages]

/-! ## Imports -/

theorem importRecord_of_ok {d : Descriptor} (found : s.records.get? r = some record)
    (ok : importable c record = .ok d) :
    s.importRecord c r =
      (.ok ⟨some s.storages.next⟩, ((s.announce r record).add d record.data (.foreign r)).2) := by
  rcases s.importRecord_cases (c := c) found with ⟨f, fails⟩ | ⟨d', ok', heq⟩
  · simp [importRecord, found, ok] at fails
  · obtain rfl : d = d' := Except.ok.inj (ok.symm.trans ok')
    exact heq

theorem importRecord_of_error {f : Fault} (found : s.records.get? r = some record)
    (error : importable c record = .error f) :
    s.importRecord c r = (.error f, s.dropRecord r) := by
  simp [importRecord, found, error]

/-- **An import takes the record over as a new storage, or it deletes the record.** It succeeds for
just those headers that denote a tensor. A success leaves the record alone and makes one storage,
which is as the header says. A failure makes none: all that happens is what the deleter does, which
a record without a deleter cannot do. -/
theorem import_takes_over_or_deletes (s : Store) (c : Config) (r : RecordId) (record : Record)
    (found : s.records.get? r = some record) (filled : record.Filled) :
    let result := (s.importRecord c r).1
    let s' := (s.importRecord c r).2
    ((∃ h, result = .ok h) ↔ record.Importable c) ∧
      (∀ h, result = .ok h →
        (∃ imported : Storage, h = ⟨some s.storages.next⟩ ∧
          s'.storages = s.storages.add imported ∧ record.Describes imported.descriptor ∧
          imported.data = record.data ∧ imported.release = .foreign r ∧
          imported.references = 1) ∧
        s'.counters = { s.counters with live := s.counters.live + 1 } ∧
        s'.records = s.records ∧ s'.host = s.host ∧
        s'.notices = s.notices ++ if record.hasDeleter then [] else [.undeletable r]) ∧
      ∀ f, result = .error f →
        s'.storages.next = s.storages.next ∧
        (¬ record.hasDeleter → s' = s) ∧
        (∀ producer, record.hasDeleter → record.origin = .produced producer →
          s' = { s with
            records := s.records.erase r
            notices := s.notices ++ [.deleted r producer] }) ∧
        (record.hasDeleter → record.origin = .exported →
          s' = { s with
            records := s.records.erase r
            counters := { s.counters with exports := s.counters.exports - 1 } }.dropAll
              record.context.toList) := by
  intro result s'
  cases hd : importable c record with
  | error f =>
    have refused : ¬ record.Importable c := fun importable => by
      obtain ⟨d, describes⟩ := importable.exists_describes
      have ok := (importable_eq_ok_iff filled).2 ⟨importable, describes⟩
      rw [hd] at ok
      cases ok
    have heq : s.importRecord c r = (.error f, s.dropRecord r) := importRecord_of_error found hd
    have hresult : result = .error f := congrArg Prod.fst heq
    have hs' : s' = s.dropRecord r := congrArg Prod.snd heq
    rw [hresult, hs']
    refine ⟨iff_of_false nofun refused, nofun, fun _ _ => ⟨?_, ?_, ?_, ?_⟩⟩
    · exact next_dropRecord s r
    · exact dropRecord_of_not_hasDeleter found
    · exact fun producer => dropRecord_of_produced found
    · exact dropRecord_of_exported found
  | ok d =>
    obtain ⟨accepted, describes⟩ := (importable_eq_ok_iff filled).1 hd
    have heq := importRecord_of_ok found hd
    have hresult : result = .ok ⟨some s.storages.next⟩ := congrArg Prod.fst heq
    have hs' : s' = ((s.announce r record).add d record.data (.foreign r)).2 :=
      congrArg Prod.snd heq
    rw [hresult, hs']
    refine ⟨iff_of_true ⟨_, rfl⟩ accepted, fun h hh => ?_, nofun⟩
    obtain rfl := Except.ok.inj hh
    rw [announce]
    split
    · exact ⟨⟨_, rfl, rfl, describes, rfl, rfl, rfl⟩, rfl, rfl, rfl, (List.append_nil _).symm⟩
    · exact ⟨⟨_, rfl, rfl, describes, rfl, rfl, rfl⟩, rfl, rfl, rfl, rfl⟩

/-- A record of a device with the number 5, which no kind of device has, is deleted. -/
theorem import_deletes_of_unknown_device :
    let header : Header := ⟨⟨4096, ⟨4096, 2⟩⟩, ⟨5, 0⟩, 1, ⟨1, 8, 1⟩, some [2], none, 0⟩
    let record := header.produced "producer" true
    let s := receive {} record
    s.records.get? 0 = some record ∧ record.Filled ∧
      (∃ f, (s.importRecord {} 0).1 = .error f) ∧
      (s.importRecord {} 0).2 =
        { s with records := s.records.erase 0, notices := [.deleted 0 "producer"] } := by
  intro header record s
  have found : s.records.get? 0 = some record := rfl
  have filled : record.Filled :=
    ⟨fun xs h => Option.some.inj h ▸ by decide, nofun⟩
  have refused : ¬ record.Importable {} := fun importable => by
    obtain ⟨kind, code⟩ := importable.device
    change kind.code = 5 at code
    revert code
    cases kind <;> decide
  obtain ⟨accepts, -, rejects⟩ := import_takes_over_or_deletes s {} 0 record found filled
  cases result : (s.importRecord {} 0).1 with
  | ok h => exact absurd (accepts.1 ⟨h, result⟩) refused
  | error f =>
    obtain ⟨-, -, deleted, -⟩ := rejects f result
    exact ⟨found, filled, ⟨f, rfl⟩, deleted "producer" rfl rfl⟩

end Store

end SharedTensor
