import SharedTensor.Config
import SharedTensor.Json.Members

/-!
# Configurations as JSON

The form of a configuration file. A section or a setting that is left out has its default value, and
unknown members are passed over.
-/

namespace SharedTensor

def StorageConfig.toJson (c : StorageConfig) : Json :=
  .record [("host_alignment", .integer c.hostAlignment.toNat)]

def InteropConfig.toJson (c : InteropConfig) : Json :=
  .record [("omit_compact_strides", .bool c.omitCompactStrides)]

def SafetyConfig.toJson (c : SafetyConfig) : Json :=
  .record [("check_view_extent", .bool c.checkViewExtent),
    ("check_null_data", .bool c.checkNullData)]

def DevelopmentConfig.toJson (c : DevelopmentConfig) : Json :=
  .record [("verbose_logging", .bool c.verboseLogging)]

/-- The value of a setting: what is read from the field if it is given, and the default if not. -/
def Json.orDefault {α : Type} (default : α) (read : Json → Option α) :
    Option Json → Option α
  | none => some default
  | some j => read j

def StorageConfig.ofJson? (j : Json) : Option StorageConfig := do
  match ← j.fields? ["host_alignment"] with
  | [hostAlignment] => return ⟨← Json.orDefault 64 Json.word? hostAlignment⟩
  | _ => none

def InteropConfig.ofJson? (j : Json) : Option InteropConfig := do
  match ← j.fields? ["omit_compact_strides"] with
  | [omitCompactStrides] => return ⟨← Json.orDefault true Json.bool? omitCompactStrides⟩
  | _ => none

def SafetyConfig.ofJson? (j : Json) : Option SafetyConfig := do
  match ← j.fields? ["check_view_extent", "check_null_data"] with
  | [checkViewExtent, checkNullData] =>
    return ⟨← Json.orDefault false Json.bool? checkViewExtent,
      ← Json.orDefault true Json.bool? checkNullData⟩
  | _ => none

def DevelopmentConfig.ofJson? (j : Json) : Option DevelopmentConfig := do
  match ← j.fields? ["verbose_logging"] with
  | [verboseLogging] => return ⟨← Json.orDefault false Json.bool? verboseLogging⟩
  | _ => none

namespace Config

def toJson (c : Config) : Json :=
  .record [("storage", c.storage.toJson), ("interop", c.interop.toJson),
    ("safety", c.safety.toJson), ("development", c.development.toJson)]

def ofJson? (j : Json) : Option Config := do
  match ← j.fields? ["storage", "interop", "safety", "development"] with
  | [storage, interop, safety, development] =>
    return ⟨← Json.orDefault {} StorageConfig.ofJson? storage,
      ← Json.orDefault {} InteropConfig.ofJson? interop,
      ← Json.orDefault {} SafetyConfig.ofJson? safety,
      ← Json.orDefault {} DevelopmentConfig.ofJson? development⟩
  | _ => none

/-- The configuration that a text denotes. -/
def ofText? (text : String) : Option Config :=
  (Json.parse? text).bind ofJson?

/-- The text of a configuration on one line. -/
def text (c : Config) : String :=
  c.toJson.compact

/-- The text of a configuration file. -/
def fileText (c : Config) : String :=
  c.toJson.pretty

end Config

end SharedTensor
