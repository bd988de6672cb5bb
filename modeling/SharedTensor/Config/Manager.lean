import SharedTensor.Config.Json
import SharedTensor.Disk
import SharedTensor.Json.Rounded
import SharedTensor.Slots
import SharedTensor.Table

/-!
# The configuration in force

A manager holds the configuration in force, the file behind it, and the receivers that follow its
changes. A configuration comes into force by loading a file, by an update, or when a check finds
that the file has another time of modification than when it was last loaded. What fails validation
never comes into force.
-/

namespace SharedTensor

/-- The number of a receiver. -/
abbrev ReceiverId := Nat

/-- What a receiver of configurations knows. -/
structure Receiver where
  /-- The newest configuration that was sent. -/
  newest : Config
  /-- Has anything been sent since the receiver last looked? -/
  changed : Bool := false
  /-- Does anyone still hold the receiver? -/
  held : Bool := true
  deriving DecidableEq, Inhabited

/-- What is said of a text that denotes no configuration. -/
def Config.complaint : String := "the text denotes no configuration"

/-- The configuration in force and what belongs to it. -/
structure Manager where
  config : Config := {}
  /-- The file to which updates are written. -/
  file : Option String := none
  /-- When that file was last modified, as of the last load. -/
  lastModified : Option Nat := none
  receivers : Table Receiver := {}
  /-- Settings that the library passes on without a meaning of its own. -/
  custom : Slots Json := {}
  deriving Inhabited

namespace Manager

/-- Sends the configuration in force to every receiver that is still held; the others are
forgotten. -/
def notify (m : Manager) : Manager :=
  { m with receivers := ⟨m.receivers.rows.map fun r => r.bind fun r =>
      if r.held then some { r with newest := m.config, changed := true } else none⟩ }

/-- Brings the configuration in a file into force, and makes the file the one behind it. -/
def load (m : Manager) (disk : Disk) (path : String) : Except Fault Manager :=
  match disk.read path with
  | .error e => .error (.unreadableFile path e.message)
  | .ok text =>
    match Config.ofText? text with
    | none => .error (.unparsableFile path Config.complaint)
    | some config =>
      match config.validate with
      | .error f => .error f
      | .ok () =>
        .ok { m with config, file := some path, lastModified := disk.modified? path }.notify

/-- Writes the configuration in force into a file. -/
def save (m : Manager) (disk : Disk) (path : String) : Except Fault Disk :=
  match disk.write path m.config.fileText with
  | .error e => .error (.stated .fileError e.message)
  | .ok disk => .ok disk

/-- Brings a changed configuration into force, unless it is invalid, and then writes it into the
file behind it. It stays in force also if it cannot be written. -/
def update (m : Manager) (disk : Disk) (change : Config → Config) :
    Except Fault Unit × Manager × Disk :=
  match (change m.config).validate with
  | .error f => (.error f, m, disk)
  | .ok () =>
    let m := { m with config := change m.config }.notify
    match m.file with
    | none => (.ok (), m, disk)
    | some path =>
      match m.save disk path with
      | .error f => (.error f, m, disk)
      | .ok disk => (.ok (), m, disk)

/-- Loads the file behind the configuration again if its time of modification is another one than at
the last load. Says whether it did. -/
def check (m : Manager) (disk : Disk) : Except Fault (Bool × Manager) :=
  match m.file with
  | none => .ok (false, m)
  | some path =>
    if (disk.modified? path).isSome ∧ disk.modified? path ≠ m.lastModified then
      match m.load disk path with
      | .error f => .error f
      | .ok m => .ok (true, m)
    else .ok (false, m)

/-- Adds a receiver, which knows the configuration in force. -/
def watch (m : Manager) : ReceiverId × Manager :=
  (m.receivers.next, { m with receivers := m.receivers.add { newest := m.config } })

/-- What a receiver has to tell: whether anything was sent since it last looked, and the newest
configuration. It counts as having looked after that. -/
def look (m : Manager) (id : ReceiverId) : Option (Bool × Config) × Manager :=
  match m.receivers.get? id with
  | none => (none, m)
  | some r =>
    (some (r.changed, r.newest),
      { m with receivers := m.receivers.update id fun r => { r with changed := false } })

/-- Lets go of a receiver. -/
def unwatch (m : Manager) (id : ReceiverId) : Manager :=
  { m with receivers := m.receivers.update id fun r => { r with held := false } }

/-- Keeps a setting under a key. Its numbers are kept as words or floats. -/
def setCustom (m : Manager) (key : String) (value : Json) : Manager :=
  { m with custom := m.custom.set key value.rounded }

def custom? (m : Manager) (key : String) : Option Json :=
  m.custom.get? key

end Manager

end SharedTensor
