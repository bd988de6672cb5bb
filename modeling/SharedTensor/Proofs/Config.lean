import SharedTensor.Config.Json
import SharedTensor.Proofs.Json
import SharedTensor.Proofs.Json.Members

/-!
# Reading configurations

A file need not give all settings. What it gives are new values, each in its section, in any order and
among members of other names (`Config.Change.WrittenAs`); a section that is left out says as much as an
empty one, and a setting that is left out keeps its default. The configuration that is read is the default
one with the new values, and nothing else is read as a configuration (`Config.ofJson?_eq_some_iff`). A file
that was written gives all settings and is therefore read back, valid or not (`Config.ofText?_fileText`).
-/

namespace SharedTensor

/-! ## Settings and sections -/

namespace Json

variable {α β : Type} {default : α} {read : Json → Option α}

/-- A setting is the default if it is not given, and is read from what it is written as. -/
theorem orDefault_eq_some_iff {write : α → Json} (exact : ∀ {j a}, read j = some a ↔ j = write a)
    {field : Option Json} {a : α} :
    orDefault default read field = some a ↔
      ∃ new : Option α, field = new.map write ∧ a = new.getD default := by
  cases field with
  | none => simp [orDefault, eq_comm]
  | some j =>
    rw [orDefault, exact]
    constructor
    · rintro rfl
      exact ⟨some a, rfl, rfl⟩
    · rintro ⟨_ | b, given, rfl⟩
      · cases given
      · exact Option.some.inj given

/-- A section that is left out is read as an empty one. -/
theorem orDefault_eq_read (empty : read (.object []) = some default) (field : Option Json) :
    orDefault default read field = read (field.getD (.object [])) := by
  cases field with
  | none => exact empty.symm
  | some j => rfl

/-- A section with one setting. -/
theorem readSetting_eq_some_iff {write : α → Json} (exact : ∀ {j a}, read j = some a ↔ j = write a)
    {name : String} {make : α → β} {j : Json} {b : β} :
    (do
      match ← j.fields? [name] with
      | [field] => return make (← orDefault default read field)
      | _ => none) = some b ↔
      ∃ new : Option α, j.Lists [(name, new.map write)] ∧ b = make (new.getD default) := by
  constructor
  · intro h
    obtain ⟨values, found, h⟩ := Option.bind_eq_some_iff.1 h
    split at h
    · next field =>
      obtain ⟨a, setting, made⟩ := Option.bind_eq_some_iff.1 h
      obtain ⟨new, rfl, rfl⟩ := (orDefault_eq_some_iff exact).1 setting
      exact ⟨new, (fields?_eq_some_iff_lists (by simp)).1 found, (Option.some.inj made).symm⟩
    · cases h
  · rintro ⟨new, lists, rfl⟩
    have found : j.fields? [name] = some [new.map write] :=
      (fields?_eq_some_iff_lists (by simp)).2 lists
    have setting : orDefault default read (new.map write) = some (new.getD default) :=
      (orDefault_eq_some_iff exact).2 ⟨new, rfl, rfl⟩
    simp [found, setting]

end Json

theorem StorageConfig.ofJson?_eq_some_iff {j : Json} {c : StorageConfig} :
    ofJson? j = some c ↔ ∃ alignment : Option UInt64,
      j.Lists [("host_alignment", alignment.map fun a => .integer a.toNat)] ∧
        c = ⟨alignment.getD 64⟩ :=
  Json.readSetting_eq_some_iff Json.word?_eq_some_iff

theorem InteropConfig.ofJson?_eq_some_iff {j : Json} {c : InteropConfig} :
    ofJson? j = some c ↔ ∃ omitStrides : Option Bool,
      j.Lists [("omit_compact_strides", omitStrides.map .bool)] ∧ c = ⟨omitStrides.getD true⟩ :=
  Json.readSetting_eq_some_iff Json.bool?_eq_some_iff

theorem DevelopmentConfig.ofJson?_eq_some_iff {j : Json} {c : DevelopmentConfig} :
    ofJson? j = some c ↔ ∃ verbose : Option Bool,
      j.Lists [("verbose_logging", verbose.map .bool)] ∧ c = ⟨verbose.getD false⟩ :=
  Json.readSetting_eq_some_iff Json.bool?_eq_some_iff

theorem SafetyConfig.ofJson?_eq_some_iff {j : Json} {c : SafetyConfig} :
    ofJson? j = some c ↔ ∃ extent null : Option Bool,
      j.Lists [("check_view_extent", extent.map .bool), ("check_null_data", null.map .bool)] ∧
        c = ⟨extent.getD false, null.getD true⟩ := by
  constructor
  · intro h
    obtain ⟨values, found, h⟩ := Option.bind_eq_some_iff.1 h
    split at h
    · next first second =>
      simp only [Option.bind_eq_bind, Option.bind_eq_some_iff, Option.pure_def, Option.some.injEq,
        Json.orDefault_eq_some_iff Json.bool?_eq_some_iff] at h
      obtain ⟨_, ⟨extent, rfl, rfl⟩, _, ⟨null, rfl, rfl⟩, rfl⟩ := h
      exact ⟨extent, null, (Json.fields?_eq_some_iff_lists (by simp)).1 found, rfl⟩
    · cases h
  · rintro ⟨extent, null, lists, rfl⟩
    have found : j.fields? ["check_view_extent", "check_null_data"] =
        some [extent.map .bool, null.map .bool] :=
      (Json.fields?_eq_some_iff_lists (by simp)).2 lists
    have setting (default : Bool) (new : Option Bool) :
        Json.orDefault default Json.bool? (new.map .bool) = some (new.getD default) :=
      (Json.orDefault_eq_some_iff Json.bool?_eq_some_iff).2 ⟨new, rfl, rfl⟩
    simp [ofJson?, found, setting]

namespace Config

/-! ## Files -/

/-- The value is a way to write the new values: it lists sections, and each of them, if it is there at all,
lists the new values of its settings. -/
def Change.WrittenAs (new : Change) (j : Json) : Prop :=
  ∃ storage interop safety development : Option Json,
    j.Lists [("storage", storage), ("interop", interop), ("safety", safety),
      ("development", development)] ∧
    (storage.getD (.object [])).Lists
      [("host_alignment", new.hostAlignment.map fun a => .integer a.toNat)] ∧
    (interop.getD (.object [])).Lists
      [("omit_compact_strides", new.omitCompactStrides.map .bool)] ∧
    (safety.getD (.object [])).Lists
      [("check_view_extent", new.checkViewExtent.map .bool),
        ("check_null_data", new.checkNullData.map .bool)] ∧
    (development.getD (.object [])).Lists [("verbose_logging", new.verboseLogging.map .bool)]

/-- **What is read is the default configuration with the new values that were written.** -/
theorem ofJson?_eq_some_iff {j : Json} {c : Config} :
    ofJson? j = some c ↔ ∃ new : Change, new.WrittenAs j ∧ c = ({} : Config).change new := by
  have storage := @Json.orDefault_eq_read _ {} StorageConfig.ofJson? rfl
  have interop := @Json.orDefault_eq_read _ {} InteropConfig.ofJson? rfl
  have safety := @Json.orDefault_eq_read _ {} SafetyConfig.ofJson? rfl
  have development := @Json.orDefault_eq_read _ {} DevelopmentConfig.ofJson? rfl
  constructor
  · intro h
    obtain ⟨values, found, h⟩ := Option.bind_eq_some_iff.1 h
    split at h
    · next s i f d =>
      simp only [Option.bind_eq_bind, Option.bind_eq_some_iff, Option.pure_def, Option.some.injEq,
        storage, interop, safety, development, StorageConfig.ofJson?_eq_some_iff,
        InteropConfig.ofJson?_eq_some_iff, SafetyConfig.ofJson?_eq_some_iff,
        DevelopmentConfig.ofJson?_eq_some_iff] at h
      obtain ⟨_, ⟨alignment, hs, rfl⟩, _, ⟨omitStrides, hi, rfl⟩, _, ⟨extent, null, hf, rfl⟩, _,
        ⟨verbose, hd, rfl⟩, rfl⟩ := h
      exact ⟨⟨alignment, omitStrides, extent, null, verbose⟩,
        ⟨s, i, f, d, (Json.fields?_eq_some_iff_lists (by simp)).1 found, hs, hi, hf, hd⟩, rfl⟩
    · cases h
  · rintro ⟨new, ⟨s, i, f, d, lists, hs, hi, hf, hd⟩, rfl⟩
    have found : j.fields? ["storage", "interop", "safety", "development"] = some [s, i, f, d] :=
      (Json.fields?_eq_some_iff_lists (by simp)).2 lists
    simp only [ofJson?, found, Option.bind_eq_bind, Option.bind_some, storage, interop, safety,
      development, StorageConfig.ofJson?_eq_some_iff.2 ⟨_, hs, rfl⟩,
      InteropConfig.ofJson?_eq_some_iff.2 ⟨_, hi, rfl⟩,
      SafetyConfig.ofJson?_eq_some_iff.2 ⟨_, _, hf, rfl⟩,
      DevelopmentConfig.ofJson?_eq_some_iff.2 ⟨_, hd, rfl⟩]
    rfl

theorem ofText?_eq_some_iff {text : String} {c : Config} :
    ofText? text = some c ↔
      ∃ j new, Json.parse? text = some j ∧ Change.WrittenAs new j ∧ c = ({} : Config).change new := by
  simp only [ofText?, Option.bind_eq_some_iff, ofJson?_eq_some_iff, exists_and_left]

/-! ## Files that were written -/

/-- The change that gives all settings. -/
def settings (c : Config) : Change where
  hostAlignment := c.storage.hostAlignment
  omitCompactStrides := c.interop.omitCompactStrides
  checkViewExtent := c.safety.checkViewExtent
  checkNullData := c.safety.checkNullData
  verboseLogging := c.development.verboseLogging

@[simp] theorem change_settings (c c' : Config) : c.change c'.settings = c' := rfl

theorem writtenAs_toJson (c : Config) : c.settings.WrittenAs c.toJson :=
  ⟨some c.storage.toJson, some c.interop.toJson, some c.safety.toJson, some c.development.toJson,
    Json.lists_record [(_, _), (_, _), (_, _), (_, _)], Json.lists_record [(_, _)],
    Json.lists_record [(_, _)], Json.lists_record [(_, _), (_, _)], Json.lists_record [(_, _)]⟩

/-- A configuration is read back from its file, also one that is not valid. -/
theorem ofText?_fileText (c : Config) : ofText? c.fileText = some c :=
  ofText?_eq_some_iff.2 ⟨_, _, Json.parse?_pretty _, c.writtenAs_toJson, rfl⟩

end Config

end SharedTensor
