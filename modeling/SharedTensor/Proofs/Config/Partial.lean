import SharedTensor.Proofs.Config.Manager
import SharedTensor.Proofs.Host

/-!
# Files that give some of the settings

A file gives new values for some settings (`Config.Change.WrittenAs`), and a load applies them to the
defaults (`Config.ofText?_of_writtenAs`). It never merges them with the configuration in force: what a load
comes to depends on the manager for its receivers only (`Manager.load_with_config`). So a file that gives
some of the settings has one meaning, which is in force after the load if its alignment can be used
(`Manager.partial_files_change_defaults`).
-/

namespace SharedTensor

namespace Config

variable {text : String} {j : Json} {new : Change}

/-- The new values that a text gives are applied to the defaults. -/
theorem ofText?_of_writtenAs
    (denotes : Json.Spells j.tokens text.toList ∨ Json.parse? text = some j) (written : new.WrittenAs j) :
    ofText? text = some (({} : Config).change new) := by
  have parsed : Json.parse? text = some j := denotes.elim Json.parse?_of_spells id
  exact ofText?_eq_some_iff.2 ⟨j, new, parsed, written, rfl⟩

theorem validate_of_isPowerOfTwo {c : Config} (power : c.storage.hostAlignment.toNat.isPowerOfTwo) :
    c.validate = .ok () :=
  if_pos (isPowerOfTwo_iff.2 power)

theorem validate_of_not_isPowerOfTwo {c : Config}
    (other : ¬c.storage.hostAlignment.toNat.isPowerOfTwo) :
    c.validate = .error (.hostAlignmentNotPowerOfTwo c.storage.hostAlignment.toNat) :=
  if_neg fun power => other (isPowerOfTwo_iff.1 power)

end Config

namespace Manager

variable {m : Manager} {disk : Disk} {path text : String} {c : Config}

/-- A load of a text that denotes a configuration fails only if that one is not valid. -/
theorem load_of_ofText? (stored : disk.read path = .ok text) (denoted : Config.ofText? text = some c) :
    m.load disk path = c.validate.map fun _ =>
      { m with file := some path, lastModified := disk.modified? path }.enact c := by
  simp only [load, stored, denoted]
  cases c.validate <;> rfl

/-- The configuration in force has no part in a load. -/
theorem load_with_config (m : Manager) (disk : Disk) (path : String) (config : Config) :
    { m with config }.load disk path = m.load disk path := rfl

/-- **A file that gives some of the settings denotes the defaults with these settings replaced.** The
sections and their settings may come in any order and among members of other names, and any of them may be
left out. If the alignment that results is a power of two, the load brings exactly this configuration into
force; if not, it fails as an error of configuration. Which configuration was in force before does not
matter. -/
theorem partial_files_change_defaults {disk : Disk} {path text : String} {j : Json}
    {new : Config.Change} (stored : disk.read path = .ok text)
    (denotes : Json.Spells j.tokens text.toList ∨ Json.parse? text = some j)
    (written : new.WrittenAs j) (m : Manager) :
    let c := ({} : Config).change new
    let alignment := c.storage.hostAlignment.toNat
    (alignment.isPowerOfTwo → ∃ m', m.load disk path = .ok m' ∧ m'.config = c) ∧
      (¬alignment.isPowerOfTwo →
        m.load disk path = .error (.hostAlignmentNotPowerOfTwo alignment) ∧
          (Fault.hostAlignmentNotPowerOfTwo alignment).kind = .configurationError) ∧
      ∀ config, { m with config }.load disk path = m.load disk path := by
  intro c alignment
  have loads := @load_of_ofText? m _ _ _ _ stored (Config.ofText?_of_writtenAs denotes written)
  refine ⟨fun power => ?_, fun other => ⟨?_, rfl⟩, load_with_config m disk path⟩
  · rw [Config.validate_of_isPowerOfTwo power] at loads
    exact ⟨_, loads, rfl⟩
  · rw [Config.validate_of_not_isPowerOfTwo other] at loads
    exact loads

/-- Sections out of order, between members that stand for nothing where they are. The other settings of the
manager do not survive the load of a great alignment, and an alignment of 96 bytes is refused. -/
theorem partial_files_change_defaults_scattered :
    let file (alignment : UInt64) : Json := .object [
      (some "host_alignment", .integer 3),
      (some "safety", .object [(some "verbose_logging", .bool true),
        (some "check_null_data", .bool false)]),
      (some "note", .array [.object [(some "storage", .null)], .text none]),
      (some "storage", .object [(some "limit", .null),
        (some "host_alignment", .integer alignment.toNat), (some "limit", .array [])])]
    let disk (alignment : UInt64) := ({} : Disk).put ["c"] ⟨.text (file alignment).pretty, 0⟩
    let m : Manager := { config := { interop := ⟨false⟩, development := ⟨true⟩ } }
    let c : Config := { storage := ⟨9223372036854775808⟩, safety := ⟨false, false⟩ }
    (∃ m', m.load (disk 9223372036854775808) "c" = .ok m' ∧ m'.config = c) ∧
      m.load (disk 96) "c" = .error (.hostAlignmentNotPowerOfTwo 96) := by
  intro file disk m c
  let new (alignment : UInt64) : Config.Change :=
    { hostAlignment := some alignment, checkNullData := some false }
  have written (alignment : UInt64) : (new alignment).WrittenAs (file alignment) :=
    ⟨_, _, _, _, (Json.fields?_eq_some_iff_lists (by simp)).1 rfl,
      (Json.fields?_eq_some_iff_lists (by simp)).1 rfl,
      (Json.fields?_eq_some_iff_lists (by simp)).1 rfl,
      (Json.fields?_eq_some_iff_lists (by simp)).1 rfl,
      (Json.fields?_eq_some_iff_lists (by simp)).1 rfl⟩
  have named : ({} : Disk).fileAt "c" = .ok ["c"] := by cbv
  have stored (alignment : UInt64) : (disk alignment).read "c" = .ok (file alignment).pretty :=
    Disk.read_write (Disk.write_eq_ok_iff.2 ⟨_, named, rfl⟩)
  have loads (alignment : UInt64) := partial_files_change_defaults (stored alignment)
    (.inl (Json.spells_pretty _)) (written alignment) m
  have other : ¬Nat.isPowerOfTwo 96 := mt isPowerOfTwo_iff.2 (by decide +kernel)
  exact ⟨(loads 9223372036854775808).1 ⟨63, rfl⟩, ((loads 96).2.1 other).1⟩

end Manager

end SharedTensor
