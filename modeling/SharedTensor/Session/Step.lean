import SharedTensor.Session.Exchange
import SharedTensor.Session.Tensor

/-!
# Running a session

One step of a session (`Session.step`), runs of many steps (`Session.run`), the end of a session, at
which everything that is still held is given up (`Session.finish`), and what an observer sees of the
shared state (`Session.observe`).
-/

namespace SharedTensor.Session

/-- The change of the desk that a configuration step makes. -/
def onDesk (s : Session) : Except Fault Unit × Desk → Outcome × Session
  | (result, desk) => (.result result, { s with desk })

/-- What a step does. -/
def act (s : Session) : Step → Outcome × Session
  | .default slot => (.done, s.putHandle slot {})
  | .empty slot sketch =>
    s.settle slot <|
      match sketch.types with
      | .error f => .error f
      | .ok (t, device) => s.store.empty s.inForce sketch.shape t device
  | .allocate slot sketch =>
    s.settle slot <|
      match sketch.descriptor with
      | .error f => .error f
      | .ok d => s.store.allocate s.inForce d
  | .ofList slot t data shape => s.settle slot (s.store.ofList s.inForce t data shape)
  | .ofParts slot region distance sketch => s.ofParts slot region distance sketch
  | .clone handle slot => s.cloneHandle handle slot
  | .view handle slot shape strides distance check =>
    s.view handle slot shape strides distance check
  | .importManaged managed slot => s.importManaged managed slot
  | .importRaw raw slot => s.importRaw raw slot
  | .drop handle => s.dropHandle handle
  | .sameStorage first second => (s.sameStorage first second, s)
  | .report handle => (s.reportHandle handle, s)
  | .gather handle t => (s.readWith handle t s.store.gather, s)
  | .elements handle t => (s.readWith handle t s.store.elements, s)
  | .write handle distance bytes => s.write handle distance bytes
  | .memory slot bytes => s.makeRegion slot bytes
  | .peek region => (s.peek region, s)
  | .adopt handle owner => s.adopt handle owner
  | .register name label =>
    (.callback (s.deleters.get? name), { s with deleters := s.deleters.set name (.custom label) })
  | .lookup name => (.callback (s.deleters.get? name), s)
  | .exportHandle handle slot => s.exportHandle handle slot
  | .reportManaged managed => (s.reportManaged managed, s)
  | .dropManaged managed => s.dropManaged managed
  | .intoRaw managed slot => s.intoRaw managed slot
  | .fromRaw raw slot => s.fromRaw raw slot
  | .delete raw => s.delete raw
  | .deleteNull raw => (s.deleteNull raw, s)
  | .produce slot sketch => s.produce slot sketch
  | .patch raw fields => s.patch raw fields
  | .retain handle slot => s.retain handle slot
  | .dropReference reference => s.dropReference reference
  | .configure new => s.onDesk (s.desk.change (·.change new))
  | .configureAll new =>
    match Config.build [new] with
    | .error f => (.result (.error f), s)
    | .ok c => s.onDesk (s.desk.change fun _ => c)
  | .configureFrom path text =>
    s.onDesk ((s.desk.put path (.text text) s.desk.disk.clock).load path)
  | .config => (.config s.inForce, s)
  | .configFile path => (.text (s.desk.disk.read path).toOption, s)
  | .watch name => (.done, { s with desk := s.desk.watch name })
  | .look name =>
    match s.desk.look name with
    | (some (changed, newest), desk) => (.seen changed newest, { s with desk })
    | (none, desk) => (.skipped, { s with desk })

/-- One step, after which time has passed. -/
def step (s : Session) (x : Step) : Outcome × Session :=
  let (outcome, s) := s.act x
  (outcome, { s with desk := s.desk.tick })

/-- The session after a list of steps. -/
def run (s : Session) (xs : List Step) : Session :=
  xs.foldl (fun s x => (s.step x).2) s

/-- The end of a session: handles are dropped first, then owned records, records known by their
address, and raw references, each in the order of their names. -/
def finish (s : Session) : Session :=
  let store := s.handles.values.foldl Store.dropHandle s.store
  let store := s.managed.values.foldl Store.dropRecord store
  let store := s.raw.values.foldl Store.dropRecord store
  let store := s.references.values.foldl Store.drop store
  { s with store, handles := {}, managed := {}, raw := {}, references := {} }

/-- What an observer sees of the shared state. -/
structure Observation where
  /-- What others have been told since the session was in an earlier state. -/
  news : List Notice
  /-- The references to the storage behind each handle. -/
  references : List (String × Nat)
  counters : Counters
  ownedBytes : Nat
  deriving DecidableEq, Inhabited

/-- What an observer sees who saw an earlier state before. -/
def observe (earlier now : Session) : Observation where
  news := now.store.notices.drop earlier.store.notices.length
  references := now.handles.entries.map fun e => (e.1, now.store.references e.2)
  counters := now.store.counters
  ownedBytes := now.store.host.pool.allocated

end SharedTensor.Session
