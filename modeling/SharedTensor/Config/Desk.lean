import SharedTensor.Config.Manager

/-!
# Working with configurations

A desk is where configurations are managed: a manager, the disk with its files, and the receivers
that are held there under names. Everything that can happen at it is a step (`Desk.Step`), and a
history is a list of steps. The clock of the disk advances by one with each step.
-/

namespace SharedTensor

/-- A manager, a disk, and receivers under names. -/
structure Desk where
  manager : Manager := {}
  disk : Disk := {}
  receivers : Slots ReceiverId := {}
  deriving Inhabited

namespace Desk

/-- What can happen at a desk. Files are also written and removed from outside. -/
inductive Step
  | write (path : String) (content : Content) (modified : Option Nat)
  | makeFolder (path : String)
  | remove (path : String)
  | read (path : String)
  | load (path : String)
  | save (path : String)
  | update (change : Config.Change)
  | check
  | setCustom (key : String) (value : Json)
  | custom (key : String)
  | watch (name : String)
  | look (name : String)
  | unwatch (name : String)

/-- What comes of a step. -/
inductive Outcome
  | done
  | skipped
  | text (text : Option String)
  | result (result : Except Fault Unit)
  | checked (result : Except Fault Bool)
  | custom (value : Option Json)
  | seen (changed : Bool) (newest : Config)
  | found (found : Bool)

/-- A change of the configuration in force. -/
def change (d : Desk) (f : Config → Config) : Except Fault Unit × Desk :=
  let (result, manager, disk) := d.manager.update d.disk f
  (result, { d with manager, disk })

/-- Brings the configuration in a file into force. -/
def load (d : Desk) (path : String) : Except Fault Unit × Desk :=
  match d.manager.load d.disk path with
  | .error f => (.error f, d)
  | .ok manager => (.ok (), { d with manager })

/-- A file written from outside; nothing happens if it cannot be written. -/
def put (d : Desk) (path : String) (content : Content) (modified : Nat) : Desk :=
  match d.disk.writeAt path content modified with
  | .error _ => d
  | .ok disk => { d with disk }

/-- Adds a receiver under a name; one that was there before is let go. -/
def watch (d : Desk) (name : String) : Desk :=
  let (id, manager) := d.manager.watch
  let manager := match d.receivers.get? name with
    | none => manager
    | some old => manager.unwatch old
  { d with manager, receivers := d.receivers.set name id }

/-- What the receiver under a name has to tell. -/
def look (d : Desk) (name : String) : Option (Bool × Config) × Desk :=
  match d.receivers.get? name with
  | none => (none, d)
  | some id =>
    let (news, manager) := d.manager.look id
    (news, { d with manager })

/-- Lets go of the receiver under a name. -/
def unwatch (d : Desk) (name : String) : Bool × Desk :=
  match d.receivers.get? name with
  | none => (false, d)
  | some id =>
    (true, { d with manager := d.manager.unwatch id, receivers := d.receivers.erase name })

/-- One step. -/
def act (d : Desk) : Step → Outcome × Desk
  | .write path content modified => (.done, d.put path content (modified.getD d.disk.clock))
  | .makeFolder path => (.done, { d with disk := d.disk.makeFolder path })
  | .remove path => (.done, { d with disk := d.disk.remove path })
  | .read path => (.text (d.disk.read path).toOption, d)
  | .load path =>
    let (result, d) := d.load path
    (.result result, d)
  | .save path =>
    match d.manager.save d.disk path with
    | .error f => (.result (.error f), d)
    | .ok disk => (.result (.ok ()), { d with disk })
  | .update new =>
    let (result, d) := d.change (·.change new)
    (.result result, d)
  | .check =>
    match d.manager.check d.disk with
    | .error f => (.checked (.error f), d)
    | .ok (reloaded, manager) => (.checked (.ok reloaded), { d with manager })
  | .setCustom key value => (.done, { d with manager := d.manager.setCustom key value })
  | .custom key => (.custom (d.manager.custom? key), d)
  | .watch name => (.done, d.watch name)
  | .look name =>
    match d.look name with
    | (some (changed, newest), d) => (.seen changed newest, d)
    | (none, d) => (.skipped, d)
  | .unwatch name =>
    let (found, d) := d.unwatch name
    (.found found, d)

/-- The desk with the clock of its disk one further. -/
def tick (d : Desk) : Desk :=
  { d with disk := { d.disk with clock := d.disk.clock + 1 } }

/-- One step, after which time has passed. -/
def step (d : Desk) (s : Step) : Outcome × Desk :=
  let (outcome, d) := d.act s
  (outcome, d.tick)

end Desk

end SharedTensor
