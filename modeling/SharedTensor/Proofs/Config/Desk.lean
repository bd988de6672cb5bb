import SharedTensor.Config.Desk
import SharedTensor.Proofs.Config.Manager

/-!
# Histories of configurations

What a step at a desk can do is said once (`Turn`, `turn_act`): it brings a configuration into force, or it
adds, asks or lets go of a receiver, or it leaves the configuration and the receivers alone. A desk is
settled while the file behind its configuration is not due. A load or check that succeeds settles it, and
no step that leaves the files alone unsettles it again (`Turn.settled`, `settled_run`), so that checks
converge (`reloads_converge`).
-/

namespace SharedTensor

/-- The name of the receiver that is added, asked or let go. -/
def Desk.Step.aim? : Desk.Step → Option String
  | .watch name | .look name | .unwatch name => some name
  | _ => none

/-- Any configuration comes from any other one by new values for settings. -/
theorem Config.exists_change_eq (c c' : Config) : ∃ new, c.change new = c' :=
  ⟨c'.settings, c.change_settings c'⟩

namespace Desk

variable {d d' : Desk} {s : Step} {steps : List Step} {path : String} {c : Config}

/-- The desk after a history. -/
def run (d : Desk) (steps : List Step) : Desk :=
  steps.foldl (fun d s => (d.step s).2) d

@[simp] theorem run_nil (d : Desk) : d.run [] = d := rfl

@[simp] theorem run_cons (d : Desk) (s : Step) (steps : List Step) :
    d.run (s :: steps) = (d.step s).2.run steps := rfl

@[simp] theorem run_append (d : Desk) (before after : List Step) :
    d.run (before ++ after) = (d.run before).run after :=
  List.foldl_append

/-- At each desk, an update by any function is one by new values for settings; so histories know all
updates. -/
theorem exists_change (d : Desk) (f : Config → Config) :
    ∃ new : Config.Change, d.change (·.change new) = d.change f := by
  obtain ⟨new, same⟩ := Config.exists_change_eq d.manager.config (f d.manager.config)
  exact ⟨new, by simp only [change, Manager.update, same]⟩

/-! ## Loads and checks -/

/-- The desk after it has loaded a configuration from a path. -/
def loaded (d : Desk) (path : String) (c : Config) : Desk :=
  { d with manager :=
    { d.manager with file := some path, lastModified := d.disk.modified? path }.enact c }

/-- What can come of a load. -/
inductive Loaded (d : Desk) (path : String) : Outcome × Desk → Prop
  | failed {f : Fault} (nothing : d.disk.config? path = none) :
      Loaded d path (.result (.error f), d)
  | loaded {c : Config} (denoted : d.disk.config? path = some c) :
      Loaded d path (.result (.ok ()), d.loaded path c)

/-- What can come of a check. -/
inductive Checked (d : Desk) : Outcome × Desk → Prop
  | fresh (due : d.manager.due? d.disk = none) : Checked d (.checked (.ok false), d)
  | failed {path : String} {f : Fault} (due : d.manager.due? d.disk = some path)
      (nothing : d.disk.config? path = none) : Checked d (.checked (.error f), d)
  | loaded {path : String} {c : Config} (due : d.manager.due? d.disk = some path)
      (denoted : d.disk.config? path = some c) : Checked d (.checked (.ok true), d.loaded path c)

theorem act_load (d : Desk) (path : String) : Loaded d path (d.act (.load path)) := by
  simp only [act, load]
  cases hl : d.manager.load d.disk path with
  | error f => exact .failed (Manager.load_eq_error_iff.1 ⟨f, hl⟩)
  | ok m =>
    obtain ⟨c, denoted, rfl⟩ := Manager.load_eq_ok_iff.1 hl
    exact .loaded denoted

theorem act_check (d : Desk) : Checked d (d.act .check) := by
  simp only [act]
  cases due : d.manager.due? d.disk with
  | none =>
    rw [Manager.check_of_not_due due]
    exact .fresh due
  | some path =>
    rw [Manager.check_of_due due]
    cases hl : d.manager.load d.disk path with
    | error f => exact .failed due (Manager.load_eq_error_iff.1 ⟨f, hl⟩)
    | ok m =>
      obtain ⟨c, denoted, rfl⟩ := Manager.load_eq_ok_iff.1 hl
      exact .loaded due denoted

/-! ## Steps -/

/-- The configuration that a step brings into force: what a loaded file denotes, what the file behind the
configuration denotes if it is due, or the candidate of an update, each of them only if it is valid. -/
def enacted? (d : Desk) : Step → Option Config
  | .load path => d.disk.config? path
  | .check => (d.manager.due? d.disk).bind d.disk.config?
  | .update new => (some (d.manager.config.change new)).filter Config.isValid
  | _ => none

/-- What a step can do to the configuration and the receivers. What it does to the files is left open. -/
inductive Turn (d : Desk) : Step → Desk → Prop
  | loads {s : Step} {path : String} {c : Config} (enacted : d.enacted? s = some c) :
      Turn d s (d.loaded path c)
  | updates {s : Step} {c : Config} {disk : Disk} (enacted : d.enacted? s = some c) :
      Turn d s { d with manager := d.manager.enact c, disk }
  | keeps {s : Step} {custom : Slots Json} {disk : Disk} (nothing : d.enacted? s = none)
      (aimless : s.aim? = none) : Turn d s { d with manager := { d.manager with custom }, disk }
  | watches (name : String) : Turn d (.watch name) (d.watch name)
  | looks (name : String) : Turn d (.look name) (d.look name).2
  | unwatches (name : String) : Turn d (.unwatch name) (d.unwatch name).2

theorem Turn.stays (nothing : d.enacted? s = none) (aimless : s.aim? = none) : Turn d s d :=
  @keeps d s d.manager.custom d.disk nothing aimless

theorem turn_load (d : Desk) (path : String) : Turn d (.load path) (d.act (.load path)).2 := by
  have done := act_load d path
  generalize d.act (.load path) = result at done ⊢
  cases done with
  | failed nothing => exact .stays nothing rfl
  | loaded denoted => exact .loads denoted

theorem turn_check (d : Desk) : Turn d .check (d.act .check).2 := by
  have done := act_check d
  generalize d.act .check = result at done ⊢
  have enacted : d.enacted? .check = (d.manager.due? d.disk).bind d.disk.config? := rfl
  cases done with
  | fresh due => exact .stays (by rw [enacted, due, Option.bind_none]) rfl
  | failed due nothing => exact .stays (by rw [enacted, due, Option.bind_some, nothing]) rfl
  | loaded due denoted => exact .loads (by rw [enacted, due, Option.bind_some, denoted])

theorem turn_update (d : Desk) (new : Config.Change) :
    Turn d (.update new) (d.act (.update new)).2 := by
  have updated := Manager.update_cases d.manager d.disk (·.change new)
  simp only [act, change]
  generalize d.manager.update d.disk (·.change new) = result at updated ⊢
  have enacted (valid : (d.manager.config.change new).validate = .ok ()) :
      d.enacted? (.update new) = some (d.manager.config.change new) :=
    if_pos (Config.isValid_iff.2 valid)
  cases updated with
  | rejected invalid =>
    have nothing : d.enacted? (.update new) = none :=
      if_neg fun valid => by rw [Config.isValid_iff.1 valid] at invalid; cases invalid
    exact .stays nothing rfl
  | unbacked valid _ => exact .updates (enacted valid)
  | unwritten valid _ _ => exact .updates (enacted valid)
  | written valid _ _ => exact .updates (enacted valid)

theorem turn_act (d : Desk) (s : Step) : Turn d s (d.act s).2 := by
  cases s with
  | write path content modified =>
    simp only [act, put]
    split
    · exact .stays rfl rfl
    · exact .keeps rfl rfl
  | makeFolder path => exact .keeps rfl rfl
  | remove path => exact .keeps rfl rfl
  | read path => exact .stays rfl rfl
  | load path => exact turn_load d path
  | save path =>
    simp only [act]
    split
    · exact .stays rfl rfl
    · exact .keeps rfl rfl
  | update new => exact turn_update d new
  | check => exact turn_check d
  | setCustom key value => exact .keeps rfl rfl
  | custom key => exact .stays rfl rfl
  | watch name => exact .watches name
  | look name =>
    have left : (d.act (.look name)).2 = (d.look name).2 := by
      simp only [act]
      split <;> simp [*]
    rw [left]
    exact .looks name
  | unwatch name => exact .unwatches name

/-! ## Settled desks -/

/-- The file behind the configuration is not due. -/
def Settled (d : Desk) : Prop :=
  d.manager.due? d.disk = none

/-- Whether a desk is settled depends on what is remembered of the file and on the files. -/
theorem Settled.congr (h : d.Settled) (file : d'.manager.file = d.manager.file)
    (lastModified : d'.manager.lastModified = d.manager.lastModified)
    (files : d'.disk.nodes = d.disk.nodes) : d'.Settled := by
  unfold Settled Manager.due? at *
  simp only [file, lastModified, Disk.modified?_of_nodes files]
  exact h

theorem settled_loaded (d : Desk) (path : String) (c : Config) : (d.loaded path c).Settled := by
  simp [Settled, Manager.due?, loaded]

theorem act_check_of_settled (h : d.Settled) : d.act .check = (.checked (.ok false), d) := by
  simp only [act, Manager.check_of_not_due h]

/-- A step that leaves the files alone does not unsettle a desk. -/
theorem Turn.settled (turn : Turn d s d') (h : d.Settled)
    (files : d'.disk.nodes = d.disk.nodes) : d'.Settled := by
  cases turn with
  | loads => exact settled_loaded _ _ _
  | updates => exact h.congr rfl rfl files
  | keeps => exact h.congr rfl rfl files
  | watches name =>
    refine h.congr ?_ ?_ files <;>
    · simp only [watch]
      split <;> rfl
  | looks name =>
    refine h.congr ?_ ?_ files <;>
    · simp only [look, Manager.look]
      split
      · rfl
      · split <;> rfl
  | unwatches name =>
    refine h.congr ?_ ?_ files <;>
    · simp only [unwatch]
      split <;> rfl

/-- A history that leaves the files alone at each moment does not unsettle a desk. -/
theorem settled_run (h : d.Settled)
    (files : ∀ before, before <+: steps → (d.run before).disk.nodes = d.disk.nodes) :
    (d.run steps).Settled := by
  induction steps generalizing d with
  | nil => exact h
  | cons s r ih =>
    have first : (d.step s).2.disk.nodes = d.disk.nodes := files [s] (by simp)
    have acted : (d.act s).2.Settled := (turn_act d s).settled h first
    have stepped : (d.step s).2.Settled := acted.congr rfl rfl rfl
    refine ih stepped fun before hb => ?_
    exact (files (s :: before) (List.cons_prefix_cons.2 ⟨rfl, hb⟩)).trans first.symm

/-- A load or check that fails leaves everything as it was, and the check is tried again as long as the
file has the same time of modification; a check reloads only what the file denotes; and after a load or
check that succeeded, a check finds nothing to do while the files are left alone. -/
theorem reloads_converge (d : Desk) :
    (∀ path f d', d.act (.load path) = (.result (.error f), d') →
      d' = d ∧ d.disk.config? path = none) ∧
    (∀ f d', d.act .check = (.checked (.error f), d') → d' = d ∧
      ∃ path, d.manager.file = some path ∧ d.disk.config? path = none ∧
        ∀ later : Disk, later.modified? path = d.disk.modified? path →
          d'.manager.check later = (d'.manager.load later path).map (true, ·)) ∧
    (∀ d', d.act .check = (.checked (.ok true), d') →
      ∃ path c, d.manager.file = some path ∧ d.disk.config? path = some c ∧
        d'.manager.config = c) ∧
    ∀ d', ((∃ path, d.act (.load path) = (.result (.ok ()), d')) ∨
        ∃ reloaded, d.act .check = (.checked (.ok reloaded), d')) →
      ∀ steps, (∀ before, before <+: steps → (d'.run before).disk.nodes = d'.disk.nodes) →
        (d'.run steps).act .check = (.checked (.ok false), d'.run steps) := by
  refine ⟨fun path f d' h => ?load, fun f d' h => ?check, fun d' h => ?reload,
    fun d' succeeded steps files => ?settled⟩
  case load =>
    have done := act_load d path
    rw [h] at done
    cases done with
    | failed nothing => exact ⟨rfl, nothing⟩
  case check =>
    have done := act_check d
    rw [h] at done
    cases done with
    | failed due nothing =>
      obtain ⟨file, some, other⟩ := Manager.due?_eq_some_iff.1 due
      refine ⟨rfl, _, file, nothing, fun later same => ?_⟩
      exact Manager.check_of_due (Manager.due?_eq_some_iff.2 ⟨file, by rwa [same], by rwa [same]⟩)
  case reload =>
    have done := act_check d
    rw [h] at done
    cases done with
    | loaded due denoted => exact ⟨_, _, (Manager.due?_eq_some_iff.1 due).1, denoted, rfl⟩
  case settled =>
    have settled : d'.Settled := by
      obtain ⟨path, loads⟩ | ⟨reloaded, checks⟩ := succeeded
      · have done := act_load d path
        rw [loads] at done
        cases done with
        | loaded => exact settled_loaded _ _ _
      · have done := act_check d
        rw [checks] at done
        cases done with
        | fresh due => exact due
        | loaded => exact settled_loaded _ _ _
    exact act_check_of_settled (settled_run settled files)

/-- A file that is broken, and the file once it is repaired. -/
theorem reloads_converge_repaired :
    let broken : Desk := {
      manager := { file := some "c" }
      disk := ({} : Disk).put ["c"] ⟨.text "\x7b", 1⟩ }
    let repaired := { broken with disk := broken.disk.put ["c"] ⟨.text "\x7b\x7d", 1⟩ }
    let f := Fault.unparsableFile "c" Config.complaint
    broken.act (.load "c") = (.result (.error f), broken) ∧
      broken.act .check = (.checked (.error f), broken) ∧
      broken.manager.check repaired.disk =
        (broken.manager.load repaired.disk "c").map (true, ·) ∧
      ∃ d', repaired.act .check = (.checked (.ok true), d') ∧ d'.manager.config = {} ∧
        (d'.run [.watch "a"]).act .check = (.checked (.ok false), d'.run [.watch "a"]) := by
  intro broken repaired f
  have load : (broken.act (.load "c")).1 = .result (.error f) := by cbv
  have check : (broken.act .check).1 = .checked (.error f) := by cbv
  have reload : (repaired.act .check).1 = .checked (.ok true) := by cbv
  have modified : repaired.disk.modified? "c" = broken.disk.modified? "c" := by cbv
  obtain ⟨loadFails, checkFails, -, -⟩ := reloads_converge broken
  obtain ⟨-, -, reloads, converges⟩ := reloads_converge repaired
  obtain ⟨loadLeaves, -⟩ := loadFails _ _ _ (Prod.ext load rfl)
  obtain ⟨checkLeaves, path, file, -, again⟩ := checkFails _ _ (Prod.ext check rfl)
  obtain rfl : "c" = path := Option.some.inj file
  obtain ⟨path, c, file, denoted, inForce⟩ := reloads _ (Prod.ext reload rfl)
  obtain rfl : "c" = path := Option.some.inj file
  have default : repaired.disk.config? "c" = some {} := by cbv
  rw [checkLeaves] at again
  refine ⟨Prod.ext load loadLeaves, Prod.ext check checkLeaves, again _ modified, _,
    Prod.ext reload rfl, ?_, ?_⟩
  · exact inForce.trans (Option.some.inj (denoted.symm.trans default))
  · refine converges _ (.inr ⟨true, Prod.ext reload rfl⟩) _ fun before hb => ?_
    obtain rfl | ⟨t, rfl, ht⟩ := List.prefix_cons_iff.1 hb
    · rfl
    · obtain rfl := List.prefix_nil.1 ht
      rfl

end Desk

end SharedTensor
