import Mathlib
import SharedTensor.Config.Manager
import SharedTensor.Proofs.Config
import SharedTensor.Proofs.Disk

/-!
# How a configuration comes into force

A load brings into force what the file denotes (`load_eq_ok_iff`), a check does the same if the file
behind the configuration is due (`check_of_due`), and an update brings its candidate into force before it
writes it (`Updated`, `update_cases`). All three make the same change of the manager, `enact`: the
configuration is replaced, and every receiver that is held is told.

From this follow what is left of an update that fails (`failed_update`) and that a configuration is
loaded again from where it was saved (`saved_configuration_reloads`).
-/

namespace SharedTensor

/-- Does the configuration pass validation? -/
def Config.isValid (c : Config) : Bool :=
  c.validate.isOk

/-- The configuration that the file at a path denotes, if that is a valid one. -/
def Disk.config? (d : Disk) (path : String) : Option Config :=
  (d.read path).toOption.bind fun text => (Config.ofText? text).filter Config.isValid

theorem Config.isValid_iff {c : Config} : c.isValid = true ↔ c.validate = .ok () := by
  unfold isValid
  cases c.validate <;> simp [Except.isOk, Except.toBool]

theorem Disk.config?_eq_some_iff {d : Disk} {path : String} {c : Config} :
    d.config? path = some c ↔
      ∃ text, d.read path = .ok text ∧ Config.ofText? text = some c ∧ c.validate = .ok () := by
  unfold config?
  cases d.read path with
  | error e => simp [Except.toOption]
  | ok text => simp [Except.toOption, Option.filter_eq_some_iff, Config.isValid_iff]

namespace Manager

variable {m m' : Manager} {d d' later : Disk} {path : String} {c : Config}

/-- Brings a configuration into force: all receivers that are held are told. -/
def enact (m : Manager) (config : Config) : Manager :=
  { m with config }.notify

/-- The file behind the configuration, if it has a time of modification that is not the one of the last
load. -/
def due? (m : Manager) (d : Disk) : Option String :=
  m.file.filter fun path => (d.modified? path).isSome ∧ d.modified? path ≠ m.lastModified

/-! ## What is told -/

@[simp] theorem enact_file (m : Manager) (c : Config) : (m.enact c).file = m.file := rfl

@[simp] theorem enact_lastModified (m : Manager) (c : Config) :
    (m.enact c).lastModified = m.lastModified := rfl

/-- A receiver that is held is told, one that was let go is forgotten. -/
theorem get?_enact (m : Manager) (c : Config) (id : ReceiverId) :
    (m.enact c).receivers.get? id = (m.receivers.get? id).bind fun r =>
      if r.held then some { r with newest := c, changed := true } else none := by
  unfold enact notify Table.get?
  simp only [List.getElem?_map]
  cases m.receivers.rows[id]? with
  | none => rfl
  | some r => cases r <;> rfl

/-! ## Loads and checks -/

/-- A load brings into force what the file denotes. -/
theorem load_eq_ok_iff : m.load d path = .ok m' ↔ ∃ c, d.config? path = some c ∧
    m' = { m with file := some path, lastModified := d.modified? path }.enact c := by
  unfold load Disk.config?
  cases d.read path with
  | error e => simp [Except.toOption]
  | ok text =>
    cases hc : Config.ofText? text with
    | none => simp [Except.toOption, hc]
    | some c =>
      cases hv : c.validate with
      | error e =>
        have invalid : c.isValid = false := by rw [Config.isValid, hv]; rfl
        have denoted : (some c).filter Config.isValid = none := if_neg (by simp [invalid])
        simp [Except.toOption, hc, hv, denoted]
      | ok u =>
        have valid : c.isValid = true := Config.isValid_iff.2 hv
        have denoted : (some c).filter Config.isValid = some c := if_pos valid
        simp only [Except.toOption, hc, hv, Option.bind_some, denoted, Option.some.injEq,
          Except.ok.injEq, exists_eq_left']
        exact eq_comm

/-- A load fails exactly if the file denotes no valid configuration. -/
theorem load_eq_error_iff : (∃ f, m.load d path = .error f) ↔ d.config? path = none := by
  cases hl : m.load d path with
  | error f =>
    cases hc : d.config? path with
    | none => simp
    | some c => rw [load_eq_ok_iff.2 ⟨c, hc, rfl⟩] at hl; cases hl
  | ok m' =>
    obtain ⟨c, hc, -⟩ := load_eq_ok_iff.1 hl
    simp [hc]

theorem due?_eq_some_iff : m.due? d = some path ↔ m.file = some path ∧
    (d.modified? path).isSome ∧ d.modified? path ≠ m.lastModified := by
  simp [due?, Option.filter_eq_some_iff]

theorem check_of_not_due (h : m.due? d = none) : m.check d = .ok (false, m) := by
  unfold check
  cases hf : m.file with
  | none => rfl
  | some path =>
    have fresh : ¬ ((d.modified? path).isSome ∧ d.modified? path ≠ m.lastModified) := fun due => by
      rw [due?_eq_some_iff.2 ⟨hf, due⟩] at h
      cases h
    exact if_neg fresh

theorem check_of_due (h : m.due? d = some path) : m.check d = (m.load d path).map (true, ·) := by
  obtain ⟨hf, due⟩ := due?_eq_some_iff.1 h
  unfold check
  simp only [hf, if_pos due]
  cases m.load d path <;> rfl

/-! ## Updates -/

/-- What can come of an update: its candidate is invalid and nothing happens, or it comes into force and
there is no file behind it, or it cannot be written there, or it is written. -/
inductive Updated (m : Manager) (d : Disk) (c : Config) : Except Fault Unit × Manager × Disk → Prop
  | rejected {f : Fault} (invalid : c.validate = .error f) : Updated m d c (.error f, m, d)
  | unbacked (valid : c.validate = .ok ()) (file : m.file = none) :
      Updated m d c (.ok (), m.enact c, d)
  | unwritten {path : String} {e : FileFault} (valid : c.validate = .ok ())
      (file : m.file = some path) (refused : d.write path c.fileText = .error e) :
      Updated m d c (.error (.stated .fileError e.message), m.enact c, d)
  | written {path : String} {d' : Disk} (valid : c.validate = .ok ())
      (file : m.file = some path) (stored : d.write path c.fileText = .ok d') :
      Updated m d c (.ok (), m.enact c, d')

/-- A valid candidate comes into force before it is written. -/
theorem update_of_file {change : Config → Config} (valid : (change m.config).validate = .ok ())
    (file : m.file = some path) :
    m.update d change =
      match d.write path (change m.config).fileText with
      | .error e => (.error (.stated .fileError e.message), m.enact (change m.config), d)
      | .ok d' => (.ok (), m.enact (change m.config), d') := by
  have behind : ({ m with config := change m.config }.notify).file = some path := file
  simp only [update, valid, behind, save]
  cases hw : d.write path (change m.config).fileText with
  | error e => simp only [notify, hw]; rfl
  | ok d' => simp only [notify, hw]; rfl

theorem update_cases (m : Manager) (d : Disk) (change : Config → Config) :
    Updated m d (change m.config) (m.update d change) := by
  cases hv : (change m.config).validate with
  | error f =>
    have rejects : m.update d change = (.error f, m, d) := by simp only [update, hv]
    rw [rejects]
    exact .rejected hv
  | ok u =>
    cases hf : m.file with
    | none =>
      have keeps : m.update d change = (.ok (), m.enact (change m.config), d) := by
        have behind : ({ m with config := change m.config }.notify).file = none := hf
        simp only [update, hv, behind]
        rfl
      rw [keeps]
      exact .unbacked hv hf
    | some path =>
      rw [update_of_file hv hf]
      cases hw : d.write path (change m.config).fileText with
      | error e => exact .unwritten hv hf hw
      | ok d' => exact .written hv hf hw

/-- An update fails for one of two reasons. If its candidate is invalid, nothing has changed; if the
candidate cannot be written, it is in force nevertheless and every receiver that is held has been told. -/
theorem failed_update {change : Config → Config} {f : Fault}
    (h : m.update d change = (.error f, m', d')) :
    d' = d ∧ ((change m.config).validate = .error f ∧ m' = m ∨
      ∃ path e, (change m.config).validate = .ok () ∧ m.file = some path ∧
        d.write path (change m.config).fileText = .error e ∧ f = .stated .fileError e.message ∧
        m' = m.enact (change m.config) ∧
        ∀ id r, m.receivers.get? id = some r → r.held →
          (m'.look id).1 = some (true, change m.config)) := by
  have updated := update_cases m d change
  rw [h] at updated
  cases updated with
  | rejected invalid => exact ⟨rfl, .inl ⟨invalid, rfl⟩⟩
  | unwritten valid file refused =>
    refine ⟨rfl, .inr ⟨_, _, valid, file, refused, rfl, rfl, fun id r hr held => ?_⟩⟩
    have told : (m.enact (change m.config)).receivers.get? id =
        some { r with newest := change m.config, changed := true } := by
      rw [get?_enact, hr, Option.bind_some, if_pos held]
    simp only [look, told]

/-- A candidate cannot be written where there is a folder. -/
theorem update_withFolder (c : Config) (valid : c.validate = .ok ()) (file : m.file = some "x") :
    m.update (Disk.withFolder "x") (fun _ => c) =
      (.error (.stated .fileError FileFault.isFolder.message), m.enact c, Disk.withFolder "x") := by
  have folder : (Disk.withFolder "x").fileAt "x" = .error .isFolder := by cbv
  rw [update_of_file valid file, Disk.write_eq_error_iff.2 folder]

theorem failed_update_withFolder :
    let m : Manager := { file := some "x", receivers := ⟨[some { newest := {} }]⟩ }
    let c : Config := { storage := ⟨32⟩ }
    ∃ m', m.update (Disk.withFolder "x") (fun _ => c) =
        (.error (.stated .fileError FileFault.isFolder.message), m', Disk.withFolder "x") ∧
      (m.look 0).1 = some (false, {}) ∧ (m'.look 0).1 = some (true, c) := by
  intro m c
  have failed := update_withFolder (m := m) c (by decide +kernel) rfl
  refine ⟨_, failed, rfl, ?_⟩
  obtain ⟨-, ⟨-, same⟩ | ⟨-, -, -, -, -, -, -, told⟩⟩ := failed_update failed
  · exact absurd (congrArg Manager.config same) (by decide)
  · rw [told 0 { newest := {} } rfl rfl]

/-- So an update that fails need not leave the configuration and its receivers alone. -/
theorem not_failed_update_unchanged :
    ¬ ∀ (m : Manager) (d : Disk) (change : Config → Config) (f : Fault) (m' : Manager) (d' : Disk),
      m.update d change = (.error f, m', d') →
        m'.config = m.config ∧ ∀ id, (m'.look id).1 = (m.look id).1 := by
  intro unchanged
  let m : Manager := { file := some "x" }
  let c : Config := { storage := ⟨32⟩ }
  have failed := update_withFolder (m := m) c (by decide +kernel) rfl
  have same : c = m.config := (unchanged _ _ _ _ _ _ failed).1
  exact absurd same (by decide)

/-! ## Saved configurations -/

theorem load_of_config? (reader : Manager) (h : d.config? path = some c) :
    ∃ m', reader.load d path = .ok m' ∧ m'.config = c :=
  ⟨_, load_eq_ok_iff.2 ⟨c, h, rfl⟩, rfl⟩

/-- A valid configuration that was written is what the file denotes, as long as it is kept. -/
theorem config?_of_write (valid : c.validate = .ok ())
    (stored : d.write path c.fileText = .ok d') (keeps : d'.KeepsAlong later path) :
    later.config? path = some c := by
  have kept : later.read path = .ok c.fileText :=
    Disk.read_of_keepsAlong keeps (Disk.read_write stored)
  exact Disk.config?_eq_some_iff.2 ⟨_, kept, Config.ofText?_fileText c, valid⟩

/-- While the file behind the configuration denotes it, a check succeeds and leaves it in force. -/
theorem check_of_config? (file : m.file = some path) (h : d.config? path = some m.config) :
    ∃ reloaded m', m.check d = .ok (reloaded, m') ∧ m'.config = m.config := by
  cases hd : m.due? d with
  | none => exact ⟨false, m, check_of_not_due hd, rfl⟩
  | some other =>
    obtain rfl : path = other := Option.some.inj (file.symm.trans (due?_eq_some_iff.1 hd).1)
    obtain ⟨m', loaded, same⟩ := load_of_config? m h
    exact ⟨true, m', by rw [check_of_due hd, loaded]; rfl, same⟩

/-- A valid configuration that was saved to a path, or written there by an update, is loaded from it
again by any manager, and a check by the manager of the update does not change it. -/
theorem saved_configuration_reloads (m : Manager) (d : Disk) (path : String) :
    (∀ d' later, m.config.validate = .ok () → m.save d path = .ok d' → d'.KeepsAlong later path →
      ∀ reader : Manager, ∃ m', reader.load later path = .ok m' ∧ m'.config = m.config) ∧
    ∀ change m' d' later, m.file = some path → m.update d change = (.ok (), m', d') →
      d'.KeepsAlong later path → m'.config = change m.config ∧
        (∀ reader : Manager, ∃ m'', reader.load later path = .ok m'' ∧ m''.config = m'.config) ∧
        ∃ reloaded m'', m'.check later = .ok (reloaded, m'') ∧ m''.config = m'.config := by
  refine ⟨fun d' later valid saved keeps reader => ?_, fun change m' d' later file done keeps => ?_⟩
  · have stored : d.write path m.config.fileText = .ok d' := by
      unfold save at saved
      split at saved
      · cases saved
      · next stored => rwa [Except.ok.inj saved] at stored
    exact load_of_config? reader (config?_of_write valid stored keeps)
  · have updated := update_cases m d change
    rw [done] at updated
    cases updated with
    | unbacked _ none => rw [file] at none; cases none
    | written valid other stored =>
      obtain rfl := Option.some.inj (file.symm.trans other)
      have denoted := config?_of_write valid stored keeps
      exact ⟨rfl, fun reader => load_of_config? reader denoted, check_of_config? file denoted⟩

/-- The greatest alignment, saved to a file that is touched before it is read again. -/
theorem saved_configuration_reloads_touched :
    let c : Config := { storage := ⟨9223372036854775808⟩ }
    let saver : Manager := { config := c }
    let m : Manager := { file := some "c" }
    let d := ({} : Disk).put ["c"] ⟨.text c.fileText, 0⟩
    let later := d.put ["c"] ⟨.text c.fileText, 7⟩
    d.KeepsAlong later "c" ∧
      saver.save {} "c" = .ok d ∧
      (∃ m', ({} : Manager).load later "c" = .ok m' ∧ m'.config = c) ∧
      m.update {} (fun _ => c) = (.ok (), m.enact c, d) ∧
      (m.enact c).due? later = some "c" ∧
      ∃ reloaded m', (m.enact c).check later = .ok (reloaded, m') ∧ m'.config = c := by
  intro c saver m d later
  have valid : c.validate = .ok () := by decide +kernel
  have named : ({} : Disk).fileAt "c" = .ok ["c"] := by cbv
  have stored : ({} : Disk).write "c" c.fileText = .ok d :=
    Disk.write_eq_ok_iff.2 ⟨_, named, rfl⟩
  have keeps : d.KeepsAlong later "c" := Disk.keepsAlong_put (by simp) fun _ => rfl
  have saved : saver.save {} "c" = .ok d := by
    rw [save, show saver.config = c from rfl, stored]
  have updated : m.update {} (fun _ => c) = (.ok (), m.enact c, d) := by
    rw [update_of_file valid rfl, stored]
  have modified : later.modified? "c" = some 7 := by cbv
  have due : (m.enact c).due? later = some "c" := by
    rw [due?_eq_some_iff, modified]
    exact ⟨rfl, rfl, by decide⟩
  have loads := (saved_configuration_reloads saver {} "c").1
  have checks := (saved_configuration_reloads m {} "c").2
  exact ⟨keeps, saved, loads _ _ valid saved keeps {}, updated, due,
    (checks _ _ _ _ rfl updated keeps).2.2⟩

end Manager

end SharedTensor
