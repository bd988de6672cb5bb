import SharedTensor.Proofs.Config.Desk
import SharedTensor.Proofs.Create

/-!
# The alignment in force

A configuration comes into force through a file, an update or settings that are applied to the
defaults (`Desk.Action`), and each of these validates it on its own. Whatever is done, the
configuration in force stays valid (`isValid_perform`, `isValid_performAll`), so its alignment is a
power of two. The allocator validates the alignment a second time, which therefore never fails: no
tensor is refused because of the configuration, and the alignment of its block is a power of two and
a multiple of what the configuration asks for and of what suits the device (`alignment_in_force`).
-/

namespace SharedTensor

theorem Config.isValid_iff_isPowerOfTwo {c : Config} :
    c.isValid ↔ isPowerOfTwo c.storage.hostAlignment.toNat := by
  rw [isValid_iff, validate]
  split
  · next power => simp only [power]
  · next other => simp only [other, reduceCtorEq]

theorem Config.isValid_default : Config.isValid {} := by
  decide +kernel

/-! ## Actions -/

/-- Settings that are changed by functions are settings that are changed by new values; so actions
know all of them. -/
theorem Config.exists_foldl_change (settings : List (Config → Config)) (c : Config) :
    ∃ changes : List Change, changes.foldl change c = settings.foldl (fun c f => f c) c := by
  induction settings generalizing c with
  | nil => exact ⟨[], rfl⟩
  | cons f settings ih =>
    obtain ⟨new, changed⟩ := exists_change_eq c (f c)
    obtain ⟨changes, rest⟩ := ih (f c)
    exact ⟨new :: changes, by rw [List.foldl_cons, changed, rest, List.foldl_cons]⟩

namespace Desk

/-- What can be done about the configuration. -/
inductive Action
  /-- A step at the desk: files are loaded, checked, written and removed. -/
  | step (s : Step)
  /-- An update by any function. -/
  | update (f : Config → Config)
  /-- Settings, one after the other, changed from their defaults and brought into force at once. -/
  | apply (settings : List Config.Change)

/-- The desk after an action. -/
def perform (d : Desk) : Action → Desk
  | .step s => (d.step s).2
  | .update f => (d.change f).2
  | .apply settings =>
    match Config.build settings with
    | .error _ => d
    | .ok c => (d.change fun _ => c).2

/-- The desk after all actions. -/
def performAll (d : Desk) (actions : List Action) : Desk :=
  actions.foldl perform d

variable {d d' : Desk} {s : Step} {c : Config}

/-- What a step brings into force is valid. -/
theorem isValid_of_enacted? (enacted : d.enacted? s = some c) : c.isValid := by
  have denoted {path : String} (found : d.disk.config? path = some c) : c.isValid := by
    obtain ⟨text, -, -, valid⟩ := Disk.config?_eq_some_iff.1 found
    exact Config.isValid_iff.2 valid
  cases s with
  | load path => exact denoted enacted
  | check =>
    obtain ⟨path, -, found⟩ := Option.bind_eq_some_iff.1 enacted
    exact denoted found
  | update new =>
    rw [enacted?] at enacted
    exact (Option.filter_eq_some_iff.1 enacted).2
  | write | makeFolder | remove | read | save | setCustom | custom | watch | look | unwatch =>
    cases enacted

/-- The configuration after a step is the old one or one that was found valid. -/
theorem Turn.isValid (turn : Turn d s d') (valid : d.manager.config.isValid) :
    d'.manager.config.isValid := by
  cases turn with
  | loads enacted => exact isValid_of_enacted? enacted
  | updates enacted => exact isValid_of_enacted? enacted
  | keeps => exact valid
  | watches name =>
    simp only [watch]
    split <;> exact valid
  | looks name =>
    simp only [look, Manager.look]
    split
    · exact valid
    · split <;> exact valid
  | unwatches name =>
    simp only [unwatch]
    split <;> exact valid

/-- An update brings its candidate into force only if that is valid. -/
theorem isValid_change (valid : d.manager.config.isValid) (f : Config → Config) :
    (d.change f).2.manager.config.isValid := by
  have updated := Manager.update_cases d.manager d.disk f
  simp only [change]
  generalize d.manager.update d.disk f = result at updated ⊢
  cases updated with
  | rejected => exact valid
  | unbacked candidate | unwritten candidate | written candidate =>
    exact Config.isValid_iff.2 candidate

/-- **An action keeps the configuration in force valid.** -/
theorem isValid_perform (valid : d.manager.config.isValid) (action : Action) :
    (d.perform action).manager.config.isValid := by
  cases action with
  | step s => exact (turn_act d s).isValid valid
  | update f => exact isValid_change valid f
  | apply settings =>
    rw [perform]
    split
    · exact valid
    · exact isValid_change valid _

theorem isValid_performAll (valid : d.manager.config.isValid) (actions : List Action) :
    (d.performAll actions).manager.config.isValid := by
  induction actions generalizing d with
  | nil => exact valid
  | cons action actions ih => exact ih (isValid_perform valid action)

/-- **The configuration in force can always be used.** Whatever files are loaded, whatever updates
and settings are tried, the alignment in force is a power of two. So no tensor is refused because of
the configuration, and the allocator of every device in reach of the host uses the larger one of
that alignment and the one of the device, a power of two and a multiple of both. -/
theorem alignment_in_force (file : Option String) (disk : Disk) (actions : List Action) :
    let c := (({ manager := { file }, disk } : Desk).performAll actions).manager.config
    let alignment := c.storage.hostAlignment.toNat
    alignment.isPowerOfTwo ∧
      (∀ (s : Store) (f : Fault),
        (∀ d, s.allocate c d = .error f → f.kind ≠ .configurationError) ∧
        (∀ shape t device, s.empty c shape t device = .error f → f.kind ≠ .configurationError) ∧
        ∀ t data shape, s.ofList c t data shape = .error f → f.kind ≠ .configurationError) ∧
      ∀ device : Device, device.isHostAccessible →
        ∃ a, HostAllocator.make device alignment = .ok a ∧
          a.alignment = max alignment device.alignment ∧ a.alignment.isPowerOfTwo ∧
          alignment ∣ a.alignment ∧ device.alignment ∣ a.alignment := by
  intro c alignment
  have valid : c.isValid := isValid_performAll Config.isValid_default actions
  have power := Config.isValid_iff_isPowerOfTwo.1 valid
  have other {f : Fault} (kind : f.kind ∈ creationKinds) : f.kind ≠ .configurationError := by
    intro same
    rw [same] at kind
    exact absurd kind (by decide)
  refine ⟨isPowerOfTwo_iff.1 power, fun s f => ⟨fun d refused => ?_, fun _ _ _ refused => ?_,
    fun _ _ _ refused => ?_⟩, fun device accessible => ?_⟩
  · exact other (Store.kind_of_allocate power refused)
  · exact other (Store.kind_of_empty power refused)
  · exact other (Store.kind_of_ofList power refused)
  · obtain ⟨largest, dvd, dvdDevice⟩ :=
      isPowerOfTwo_max (isPowerOfTwo_iff.1 power) device.isPowerOfTwo_alignment
    refine ⟨⟨max alignment device.alignment⟩, ?_, rfl, largest, dvd, dvdDevice⟩
    rw [HostAllocator.make, accessible, power]
    rfl

/-- Settings that are refused, an update, and a file that is refused: the update stays in force. A
tensor that is too large for its alignment is refused for want of memory, and a device that likes
more than the configuration asks for gets what it likes. -/
theorem alignment_in_force_updated :
    let actions : List Action := [.apply [{ hostAlignment := some 96 }],
      .update fun c => { c with storage := ⟨128⟩ },
      .step (.write "c" (.text "\x7b\"storage\": \x7b\"host_alignment\": 3\x7d\x7d") none),
      .step (.load "c"), .step .check]
    let c := (({ manager := { file := some "c" } } : Desk).performAll actions).manager.config
    c = { storage := ⟨128⟩ } ∧ Nat.isPowerOfTwo 128 ∧
      (({} : Store).empty c [Int64.maxValue] .uint8 .cpu = .error .invalidBlock ∧
        Fault.invalidBlock.kind ≠ .configurationError) ∧
      (Device.mk .cudaManaged 0).isHostAccessible ∧
      ∃ a, HostAllocator.make ⟨.cudaManaged, 0⟩ 128 = .ok a ∧ a.alignment = 256 ∧
        128 ∣ a.alignment := by
  intro actions c
  obtain ⟨power, kinds, alignments⟩ := alignment_in_force (some "c") {} actions
  have updated : c = { storage := ⟨128⟩ } := by
    dsimp only [c, actions]
    cbv
  change c.storage.hostAlignment.toNat.isPowerOfTwo at power
  have refused : ({} : Store).empty c [Int64.maxValue] .uint8 .cpu = .error .invalidBlock := by
    rw [updated]
    rfl
  have accessible : (Device.mk .cudaManaged 0).isHostAccessible := by decide
  obtain ⟨a, made, largest, -, dvd, -⟩ := alignments ⟨.cudaManaged, 0⟩ accessible
  change HostAllocator.make _ c.storage.hostAlignment.toNat = _ at made
  change _ = max c.storage.hostAlignment.toNat _ at largest
  change c.storage.hostAlignment.toNat ∣ _ at dvd
  rw [updated] at power made largest dvd
  exact ⟨updated, power, ⟨refused, (kinds {} .invalidBlock).2.1 _ _ _ refused⟩, accessible, a,
    made, largest, dvd⟩

end Desk

end SharedTensor
