import SharedTensor.Descriptor.Json
import SharedTensor.Proofs.Json
import SharedTensor.Proofs.Json.Members
import SharedTensor.Proofs.Kinds

/-!
# Reading descriptors back

A descriptor can be written in many ways (`Descriptor.WrittenAs`): its fields in any order, among
others, or as an array, and so again the fields of its type and of its device. The reader takes these
values and no others (`Descriptor.ofJson?_eq_some_iff`). Since a value is read back from every text
that spells it, this settles which texts are read as which descriptor (`Descriptor.text_reads_back`).
-/

namespace SharedTensor

open Json (IsTag)

/-! ## Ways to write -/

/-- The value is a way to write the type. -/
def ElementType.WrittenAs (t : ElementType) (j : Json) : Prop :=
  ∃ code, IsTag t.kind.tag code ∧
    j.Holds [("code", code), ("bits", .integer t.bits.toNat), ("lanes", .integer t.lanes.toNat)]

/-- The value is a way to write the device. -/
def Device.WrittenAs (d : Device) (j : Json) : Prop :=
  ∃ kind, IsTag d.kind.tag kind ∧ j.Holds [("kind", kind), ("index", .integer d.index.toInt)]

/-- The value is a way to write the descriptor. -/
def Descriptor.WrittenAs (d : Descriptor) (j : Json) : Prop :=
  ∃ elementType device, d.elementType.WrittenAs elementType ∧ d.device.WrittenAs device ∧
    j.Holds [("shape", listJson d.shape), ("strides", listJson d.strides),
      ("byte_offset", .integer d.byteOffset.toNat), ("dtype", elementType), ("device", device)]

/-! ## Reading -/

theorem ElementType.ofJson?_eq_some_iff {j : Json} {t : ElementType} :
    ofJson? j = some t ↔ t.WrittenAs j := by
  constructor
  · intro h
    obtain ⟨values, read, h⟩ := Option.bind_eq_some_iff.1 h
    split at h
    · next code bits lanes =>
      simp only [Option.bind_eq_bind, Option.bind_eq_some_iff, Option.pure_def, Option.some.injEq,
        Json.tag?_eq_some_iff, ElementKind.ofTag?_eq_some_iff, Json.byte?_eq_some_iff,
        Json.halfword?_eq_some_iff] at h
      obtain ⟨kind, ⟨tag, isTag, rfl⟩, b, rfl, l, rfl, rfl⟩ := h
      exact ⟨code, isTag, (Json.fields?_eq_some_iff (by simp)).1 read⟩
    · cases h
  · rintro ⟨code, isTag, holds⟩
    have read : j.fields? ["code", "bits", "lanes"] =
        some [some code, some (.integer t.bits.toNat), some (.integer t.lanes.toNat)] :=
      (Json.fields?_eq_some_iff (by simp)).2 holds
    simp [ofJson?, read, Json.tag?_eq_some_iff.2 isTag, ElementKind.ofTag?_tag,
      Json.byte?_eq_some_iff.2 rfl, Json.halfword?_eq_some_iff.2 rfl]

theorem Device.ofJson?_eq_some_iff {j : Json} {d : Device} :
    ofJson? j = some d ↔ d.WrittenAs j := by
  constructor
  · intro h
    obtain ⟨values, read, h⟩ := Option.bind_eq_some_iff.1 h
    split at h
    · next kind index =>
      simp only [Option.bind_eq_bind, Option.bind_eq_some_iff, Option.pure_def, Option.some.injEq,
        Json.tag?_eq_some_iff, DeviceKind.ofTag?_eq_some_iff, Json.signedHalf?_eq_some_iff] at h
      obtain ⟨k, ⟨tag, isTag, rfl⟩, i, rfl, rfl⟩ := h
      exact ⟨kind, isTag, (Json.fields?_eq_some_iff (by simp)).1 read⟩
    · cases h
  · rintro ⟨kind, isTag, holds⟩
    have read : j.fields? ["kind", "index"] = some [some kind, some (.integer d.index.toInt)] :=
      (Json.fields?_eq_some_iff (by simp)).2 holds
    simp [ofJson?, read, Json.tag?_eq_some_iff.2 isTag, DeviceKind.ofTag?_tag,
      Json.signedHalf?_eq_some_iff.2 rfl]

namespace Descriptor

theorem mapM_signedWord?_eq_some_iff {elements : List Json} {xs : List Int64} :
    elements.mapM Json.signedWord? = some xs ↔ elements = xs.map fun x => .integer x.toInt := by
  induction elements generalizing xs with
  | nil => cases xs <;> simp
  | cons j rest ih =>
    simp only [List.mapM_cons, Option.bind_eq_bind, Option.bind_eq_some_iff, Option.pure_def,
      Json.signedWord?_eq_some_iff, ih]
    cases xs <;> simp

theorem signedWords?_eq_some_iff {j : Json} {xs : List Int64} :
    j.signedWords? = some xs ↔ j = listJson xs := by
  cases j with
  | array elements =>
    rw [Json.signedWords?, mapM_signedWord?_eq_some_iff, listJson, Json.array.injEq]
  | _ => exact iff_of_false nofun nofun

/-- **What is read is what was written**, in whichever way. -/
theorem ofJson?_eq_some_iff {j : Json} {d : Descriptor} : ofJson? j = some d ↔ d.WrittenAs j := by
  constructor
  · intro h
    obtain ⟨values, read, h⟩ := Option.bind_eq_some_iff.1 h
    split at h
    · next shape strides byteOffset elementType device =>
      simp only [Option.bind_eq_bind, Option.bind_eq_some_iff, Option.pure_def, Option.some.injEq,
        signedWords?_eq_some_iff, Json.word?_eq_some_iff, ElementType.ofJson?_eq_some_iff,
        Device.ofJson?_eq_some_iff] at h
      obtain ⟨shape, rfl, strides, rfl, byteOffset, rfl, type, isType, device, isDevice, rfl⟩ := h
      exact ⟨_, _, isType, isDevice, (Json.fields?_eq_some_iff (by simp)).1 read⟩
    · cases h
  · rintro ⟨elementType, device, isType, isDevice, holds⟩
    have read : j.fields? ["shape", "strides", "byte_offset", "dtype", "device"] =
        some [some (listJson d.shape), some (listJson d.strides),
          some (.integer d.byteOffset.toNat), some elementType, some device] :=
      (Json.fields?_eq_some_iff (by simp)).2 holds
    simp [ofJson?, read, signedWords?_eq_some_iff.2 rfl, Json.word?_integer,
      ElementType.ofJson?_eq_some_iff.2 isType, Device.ofJson?_eq_some_iff.2 isDevice]

theorem writtenAs_toJson (d : Descriptor) : d.WrittenAs d.toJson :=
  ⟨_, _, ⟨_, .text, Json.holds_record _⟩, ⟨_, .text, Json.holds_record _⟩, Json.holds_record _⟩

theorem ofText?_eq_some_iff {text : String} {d : Descriptor} :
    ofText? text = some d ↔ ∃ j, Json.parse? text = some j ∧ d.WrittenAs j := by
  simp only [ofText?, Option.bind_eq_some_iff, ofJson?_eq_some_iff]

/-- An object with a flaw, in itself or in what it holds as its type or its device, is refused. -/
theorem ofText?_of_flawed {text : String} {members : List (Option String × Json)}
    (parsed : Json.parse? text = some (.object members))
    (flawed : Json.Flawed ["shape", "strides", "byte_offset", "dtype", "device"] members ∨
      (∃ inner, (some "dtype", .object inner) ∈ members ∧
        Json.Flawed ["code", "bits", "lanes"] inner) ∨
      ∃ inner, (some "device", .object inner) ∈ members ∧ Json.Flawed ["kind", "index"] inner) :
    ofText? text = none := by
  refine Option.eq_none_iff_forall_ne_some.2 fun d read => ?_
  obtain ⟨j, parsed', elementType, device, isType, isDevice, holds⟩ := ofText?_eq_some_iff.1 read
  obtain rfl : Json.object members = j := Option.some.inj (parsed.symm.trans parsed')
  rcases flawed with flawed | ⟨inner, there, flawed⟩ | ⟨inner, there, flawed⟩
  · exact holds.not_flawed (by simp) flawed
  · obtain rfl := holds.eq_of_mem (by simp) (v := elementType) (by simp) there
    obtain ⟨code, -, holds⟩ := isType
    exact holds.not_flawed (by simp) flawed
  · obtain rfl := holds.eq_of_mem (by simp) (v := device) (by simp) there
    obtain ⟨kind, -, holds⟩ := isDevice
    exact holds.not_flawed (by simp) flawed

/-- **A descriptor is read back from its text, and from every text that says the same**, with any blanks:
the fields may come in any order, among others, or as an array, and so may those of the type and of the
device. No other text is read as the descriptor, and none at all in which a field is missing or comes
twice. -/
theorem text_reads_back (d : Descriptor) :
    ofText? d.text = some d ∧
      (∀ (j : Json) (text : String), d.WrittenAs j → Json.Spells j.tokens text.toList →
        ofText? text = some d) ∧
      (∀ text, ofText? text = some d ↔ ∃ j, Json.parse? text = some j ∧ d.WrittenAs j) ∧
      ∀ text members, Json.parse? text = some (.object members) →
        (Json.Flawed ["shape", "strides", "byte_offset", "dtype", "device"] members ∨
          (∃ inner, (some "dtype", .object inner) ∈ members ∧
            Json.Flawed ["code", "bits", "lanes"] inner) ∨
          ∃ inner, (some "device", .object inner) ∈ members ∧
            Json.Flawed ["kind", "index"] inner) →
        ofText? text = none := by
  refine ⟨?_, fun j text written spelled => ?_, fun text => ofText?_eq_some_iff,
    fun text members => ofText?_of_flawed⟩
  · exact ofText?_eq_some_iff.2 ⟨d.toJson, Json.parse?_compact _, d.writtenAs_toJson⟩
  · exact ofText?_eq_some_iff.2 ⟨j, Json.parse?_of_spells spelled, written⟩

/-- The fields in another order and with another one among them, those of the device as an array, over
several lines. Without the shape, or with two of them, nothing is read. -/
theorem text_reads_back_reordered :
    let d : Descriptor := ⟨⟨[2], [Int64.minValue]⟩, 18446744073709551615, .float32, .cuda (-1)⟩
    let shape : Option String × Json := (some "shape", .array [.integer 2])
    let others : List (Option String × Json) := [
      (some "device", .array [.text (some "Cuda"), .integer (-1)]),
      (some "note", .array [.array [.real ⟨false, 0, [5], 0⟩]]),
      (some "dtype", .object [(some "lanes", .integer 1), (some "bits", .integer 32),
        (some "code", .text (some "Float"))]),
      (some "strides", .array [.integer (-9223372036854775808)]),
      (some "byte_offset", .integer 18446744073709551615)]
    ofText? (Json.object (others ++ [shape])).pretty = some d ∧
      ofText? (Json.object others).pretty = none ∧
      ofText? (Json.object (others ++ [shape, shape])).pretty = none := by
  intro d shape others
  have written : d.WrittenAs (.object (others ++ [shape])) := ofJson?_eq_some_iff.1 rfl
  obtain ⟨-, reads, -, refuses⟩ := text_reads_back d
  exact ⟨reads _ _ written (Json.spells_pretty _),
    refuses _ _ (Json.parse?_pretty _) (.inl ⟨"shape", by decide, by decide⟩),
    refuses _ _ (Json.parse?_pretty _) (.inl ⟨"shape", by decide, by decide⟩)⟩

end Descriptor

end SharedTensor
