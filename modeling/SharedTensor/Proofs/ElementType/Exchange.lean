import SharedTensor.Proofs.ElementType.Name
import SharedTensor.Proofs.ElementType.TypeString
import SharedTensor.Proofs.Import

/-!
# Element types in records

Every type with lanes is read back from its numbers, and a record is then taken in or refused as if it
were of any other such type (`Store.importable_withType`). A type string denotes one lane, and a name
no lanes only if it says so: such a type can be read, but no record of it is ever taken in
(`parsed_types_cross`).
-/

namespace SharedTensor

/-- The tensor with elements of another type. -/
def Descriptor.withType (d : Descriptor) (t : ElementType) : Descriptor :=
  { d with elementType := t }

/-- The record of a tensor with elements of another type. -/
def Record.withType (record : Record) (t : ElementType) : Record :=
  { record with type := t.numbers }

theorem Descriptor.make_withType (shape : List Int64) (strides : Option (List Int64))
    (t u : ElementType) (device : Device) :
    make shape strides u device = (make shape strides t device).map (·.withType u) := by
  unfold make
  simp only
  split <;> rfl

variable {record : Record} {c : Config} {t u : ElementType}

/-- Apart from the type of its elements, a record says the same of a tensor whatever that type is. -/
theorem Record.descriptor_withType (ht : t.lanes ≠ 0) (hu : u.lanes ≠ 0) :
    (record.withType u).descriptor = (record.withType t).descriptor.map (·.withType u) := by
  have read {t : ElementType} (ht : t.lanes ≠ 0) : (record.withType t).descriptor = do
      let shape ← record.shapeOf
      let strides ← record.stridesOf
      let device ← record.device.device
      let d ← Descriptor.make shape strides t device
      return d.withByteOffset record.byteOffset := by
    unfold Header.descriptor withType
    simp only [ElementType.elementType_numbers ht]
    rfl
  rw [read ht, read hu]
  change _ = (fun d : Descriptor => d.withType u) <$> _
  simp only [map_bind]
  refine bind_congr fun shape => bind_congr fun strides => bind_congr fun device => ?_
  rw [Descriptor.make_withType shape strides t u]
  cases Descriptor.make shape strides t device <;> rfl

namespace Store

/-- **What a record is refused for is not the type of its elements**, as long as these have lanes. -/
theorem importable_withType (ht : t.lanes ≠ 0) (hu : u.lanes ≠ 0) :
    importable c (record.withType u) = (importable c (record.withType t)).map (·.withType u) := by
  unfold importable
  rw [Record.descriptor_withType ht hu]
  cases (record.withType t).descriptor with
  | error f => rfl
  | ok d =>
    change (if record.data.isNull ∧ 0 < d.count ∧ c.safety.checkNullData then _ else _) =
      Except.map _ (if record.data.isNull ∧ 0 < d.count ∧ c.safety.checkNullData then _ else _)
    split <;> rfl

/-- No record of elements without lanes is taken in. -/
theorem importable_of_no_lanes (ht : t.lanes = 0) :
    ∃ f, importable c (record.withType t) = .error f := by
  cases ok : importable c (record.withType t) with
  | error f => exact ⟨f, rfl⟩
  | ok d =>
    have read := (descriptor_of_importable ok).1
    simp only [Header.descriptor, bind_eq_ok_iff] at read
    obtain ⟨shape, -, strides, -, type, known, -⟩ := read
    exact absurd ht (TypeNumbers.elementType_eq_ok_iff.1 known).1

end Store

namespace ElementType

theorem lanes_of_ofTypeString {text : String} (h : ofTypeString text = .ok t) : t.lanes = 1 := by
  obtain ⟨s, denotes, -⟩ := ofTypeString_eq_ok_iff.1 h
  cases denotes
  rfl

/-- A name without lanes ends with a count of zero. -/
theorem exists_count_of_ofName {text : String} (h : ofName text = .ok t) (lanes : t.lanes = 0) :
    ∃ kind width count, Name.Denotes (.laned kind width count) t ∧ Decimal.Unsigned count 0 ∧
      (Name.laned kind width count).chars = text.toList := by
  obtain ⟨n, denotes, same⟩ := ofName_eq_ok_iff.1 h
  cases denotes with
  | bool | plain => cases lanes
  | laned width count =>
    obtain rfl : _ = (0 : UInt16) := lanes
    exact ⟨_, _, _, .laned width count, count, same⟩

/-- **Every type that is read can cross in a record, unless the name asks for no lanes.** A record of
such a type is refused for nothing that it would not be refused for with elements of any other type,
and without lanes it is always refused. -/
theorem parsed_types_cross (text : String) (t : ElementType)
    (parsed : ofName text = .ok t ∨ ofTypeString text = .ok t) :
    (t.lanes ≠ 0 → t.numbers.elementType = .ok t ∧
      ∀ (config : Config) (record : Record) (u : ElementType), u.lanes ≠ 0 →
        Store.importable config (record.withType t) =
          (Store.importable config (record.withType u)).map (·.withType t)) ∧
      (t.lanes = 0 → t.numbers.elementType = .error .noLanes ∧
        ∀ (config : Config) (record : Record),
          ∃ f, Store.importable config (record.withType t) = .error f) ∧
      (t.lanes = 0 ↔ ∃ kind width count, Name.Denotes (.laned kind width count) t ∧
        Decimal.Unsigned count 0 ∧ (Name.laned kind width count).chars = text.toList) := by
  refine ⟨fun lanes => ⟨elementType_numbers lanes, fun _ _ _ hu =>
      Store.importable_withType hu lanes⟩,
    fun none => ⟨if_pos none, fun _ _ => Store.importable_of_no_lanes none⟩, ?_, ?_⟩
  · intro none
    rcases parsed with named | described
    · exact exists_count_of_ofName named none
    · rw [lanes_of_ofTypeString described] at none
      cases none
  · rintro ⟨kind, width, count, denotes, zero, -⟩
    cases denotes with
    | laned _ lanes => exact UInt16.toNat_inj.1 (lanes.unique zero)

/-- Pairs of complex numbers cross: a record of two of them is taken in as one of two floats would be. -/
theorem parsed_types_cross_complex :
    let t : ElementType := ⟨.complex, 64, 2⟩
    let record := Header.produced
      ⟨⟨4096, ⟨4096, 2⟩⟩, ⟨1, 0⟩, 1, t.numbers, some [2], none, 0⟩ "producer" true
    ofName "complex64x2" = .ok t ∧ t.lanes ≠ 0 ∧ t.numbers.elementType = .ok t ∧
      ∃ d, Store.importable {} (record.withType float32) = .ok d ∧
        Store.importable {} (record.withType t) = .ok (d.withType t) := by
  intro t record
  have named : ofName "complex64x2" = .ok t := by
    have read : ofNameChars? "complex64x2".toList = some t := by decide
    rw [ofName, read]
  have lanes : t.lanes ≠ 0 := by decide
  obtain ⟨crosses, -, -⟩ := parsed_types_cross "complex64x2" t (.inl named)
  obtain ⟨read, same⟩ := crosses lanes
  have taken : ∃ d, Store.importable {} (record.withType float32) = .ok d := ⟨_, rfl⟩
  obtain ⟨d, hd⟩ := taken
  have alike := same {} record float32 (by decide)
  rw [hd] at alike
  exact ⟨named, lanes, read, d, hd, alike⟩

/-- Floats without lanes can be named, but their numbers are refused. -/
theorem not_parsed_types_cross_no_lanes :
    ¬∀ (text : String) (t : ElementType), ofName text = .ok t → t.numbers.elementType = .ok t := by
  intro h
  have read : ofNameChars? "float32x0".toList = some ⟨.float, 32, 0⟩ := by decide
  have crossed := h "float32x0" ⟨.float, 32, 0⟩ (by rw [ofName, read])
  cases crossed

end ElementType

end SharedTensor
