import SharedTensor.Proofs.Client.Chain

/-!
# Checked views

A view can be checked when it is made, against the extent of its source, and it is checked in any case
when it is read, against its own. Both are the same check, since a view has the extent of its source
(`Store.view_checking_iff`). What has passed it never fails it again: a tensor is not changed, and
whoever takes in an export of it has the same tensor with the same extent (`Client.Copy.bears`). So
for reaching outside of its buffer, no copy of a checked view is ever refused
(`Client.checked_views_are_readable`).
-/

namespace SharedTensor

/-- The tensor reaches nothing outside of its extent. -/
def Storage.Contained (st : Storage) : Prop :=
  st.extent.admit st.descriptor st.data = .ok ()

theorem Storage.lasting_contained : Storage.Lasting Storage.Contained := by
  intro st st' same contained
  rw [Contained, same.data, same.extent, same.descriptor]
  exact contained

/-! ## Requests with and without the check -/

namespace ViewRequest

variable {r : ViewRequest} {c : Config} {source : Storage} {made : Descriptor × Pointer}

/-- The same request, with or without a check of the extent. -/
def checking (r : ViewRequest) (on : Bool) : ViewRequest :=
  { r with checkExtent := some on }

theorem parts_checking_iff :
    (r.checking true).parts c source = .ok made ↔
      (r.checking false).parts c source = .ok made ∧
        source.extent.admit made.1 made.2 = .ok () := by
  have descriptor (on : Bool) :
      (r.checking on).descriptor source.descriptor = r.descriptor source.descriptor := rfl
  have data (on : Bool) : (r.checking on).data = r.data := rfl
  have check (on : Bool) : (r.checking on).checkExtent = some on := rfl
  simp only [parts_eq, descriptor, data, check, Option.getD_some, if_true, Bool.false_eq_true,
    if_false]
  cases (r.descriptor source.descriptor).validate with
  | error f =>
    refine iff_of_false (fun ok => ?_) fun ok => ?_
    · cases ok
    · cases ok.1
  | ok =>
    constructor
    · intro ok
      cases admitted : source.extent.admit (r.descriptor source.descriptor)
        (r.data.getD source.data) with
      | error f =>
        rw [admitted] at ok
        cases ok
      | ok =>
        rw [admitted] at ok
        cases ok
        exact ⟨rfl, admitted⟩
    · rintro ⟨ok, admitted⟩
      cases ok
      rw [admitted]

end ViewRequest

namespace Store

variable {s s' : Store} {h v : Handle} {c : Config} {r : ViewRequest} {t : Scalar} {f : Fault}

/-- The handle is of a tensor that reaches nothing outside of its extent. -/
def Contained (s : Store) (h : Handle) : Prop :=
  ∃ id st, h = ⟨some id⟩ ∧ s.storages.get? id = some st ∧ st.Contained

/-- **A view passes the check when it is made if it passes it once it is made.** -/
theorem view_checking_iff :
    s.view c h (r.checking true) = .ok (v, s') ↔
      s.view c h (r.checking false) = .ok (v, s') ∧ s'.Contained v := by
  cases resolved : s.resolve h "storage" with
  | error f =>
    have refused (on : Bool) : s.view c h (r.checking on) = .error f := by
      rw [view, resolved]
    rw [refused, refused]
    refine iff_of_false (fun ok => ?_) fun ok => ?_
    · cases ok
    · cases ok.1
  | ok found =>
    obtain ⟨id, source⟩ := found
    obtain ⟨rfl, live⟩ := resolve_eq_ok resolved
    rw [view_of_live live, view_of_live live, map_eq_ok_iff, map_eq_ok_iff]
    constructor
    · rintro ⟨made, checked, result⟩
      obtain ⟨unchecked, admitted⟩ := ViewRequest.parts_checking_iff.1 checked
      refine ⟨⟨made, unchecked, result⟩, ?_⟩
      cases result
      exact ⟨_, _, rfl, get?_view live made.1 made.2, admitted⟩
    · rintro ⟨⟨made, unchecked, result⟩, id', st, heq, found, contained⟩
      refine ⟨made, ?_, result⟩
      cases result
      cases heq
      obtain rfl := Option.some.inj (found.symm.trans (get?_view live made.1 made.2))
      exact ViewRequest.parts_checking_iff.2 ⟨unchecked, contained⟩

/-! ## Reading -/

/-- If the tensor behind a handle reaches nothing outside of its extent, the handle is found unreadable
for some other reason than its shape. -/
theorem kind_ne_of_readable {operation : String}
    (contained : ∀ id st, h = ⟨some id⟩ → s.storages.get? id = some st → st.Contained)
    (refused : s.readable t operation h = .error f) : f.kind ≠ .invalidShape := by
  unfold readable at refused
  split at refused
  · next resolved =>
    cases refused
    unfold resolve at resolved
    split at resolved
    · cases resolved
      nofun
    · cases resolved
  · next id st resolved =>
    obtain ⟨rfl, live⟩ := resolve_eq_ok resolved
    have admitted : st.extent.admit st.descriptor st.data = .ok () := contained id st rfl live
    simp only [admitted] at refused
    split_ifs at refused <;> cases refused <;> nofun

theorem kind_ne_of_elements
    (contained : ∀ id st, h = ⟨some id⟩ → s.storages.get? id = some st → st.Contained)
    (refused : s.elements t h = .error f) : f.kind ≠ .invalidShape := by
  unfold elements at refused
  split at refused
  · next unreadable =>
    cases refused
    exact kind_ne_of_readable contained unreadable
  · split at refused
    · cases refused
      nofun
    · cases refused

theorem kind_ne_of_gather
    (contained : ∀ id st, h = ⟨some id⟩ → s.storages.get? id = some st → st.Contained)
    (refused : s.gather t h = .error f) : f.kind ≠ .invalidShape := by
  unfold gather at refused
  split at refused
  · next unreadable =>
    cases refused
    exact kind_ne_of_readable contained unreadable
  · split at refused
    · exact kind_ne_of_elements contained refused
    · cases refused

end Store

namespace Client

/-! ## Copies -/

/-- What a client has come by from a handle by cloning it, which gives the same handle once more, and
by exporting it and taking the record in again, as often as it likes. In between anything may happen,
but nobody overwrites the record. -/
inductive Copy (c₀ : Client) (h₀ : Handle) : Client → Carrier → Prop
  | source (held : h₀ ∈ c₀.handles) : Copy c₀ h₀ c₀ (.handle h₀)
  | meanwhile {c : Client} {x : Carrier} (copy : Copy c₀ h₀ c x) (m : Move)
      (leaves : ∀ r header, x = .record r → m ≠ .overwrite r header) : Copy c₀ h₀ (c.step m) x
  | exported {c : Client} {h : Handle} {r : RecordId} {s : Store}
      (copy : Copy c₀ h₀ c (.handle h)) (held : h ∈ c.handles)
      (ok : c.store.exportRecord c.config h = .ok (r, s)) :
      Copy c₀ h₀ (c.step (.exportHandle h)) (.record r)
  | importManaged {c : Client} {h : Handle} {r : RecordId} {s : Store}
      (copy : Copy c₀ h₀ c (.record r)) (held : r ∈ c.managed)
      (ok : c.store.importRecord c.config r = (.ok h, s)) :
      Copy c₀ h₀ (c.step (.importManaged r)) (.handle h)
  | importRaw {c : Client} {h : Handle} {r : RecordId} {s : Store}
      (copy : Copy c₀ h₀ c (.record r)) (held : r ∈ c.raw)
      (ok : c.store.importRecord c.config r = (.ok h, s)) :
      Copy c₀ h₀ (c.step (.importRaw r)) (.handle h)

variable {c c₀ : Client} {h₀ : Handle} {x : Carrier} {P : Storage → Prop}

/-- A chain without views leads to copies. -/
theorem Copy.chain (copy : Copy c₀ h₀ c x) : Chain c₀ h₀ c x := by
  induction copy with
  | source held => exact .source held
  | meanwhile _ m leaves ih => exact .meanwhile ih m leaves
  | exported _ held ok ih => exact .exported ih held ok
  | importManaged _ held ok ih => exact .importManaged ih held ok
  | importRaw _ held ok ih => exact .importRaw ih held ok

/-- **Copies are of the same tensor.** Whatever is true of the tensor that they were made from is true
of them. -/
theorem Copy.bears (copy : Copy c₀ h₀ c x) (lasting : Storage.Lasting P) (start : Balanced c₀)
    (valid : c₀.store.Valid) (source : Bears P c₀.store (.handle h₀)) : Bears P c.store x := by
  induction copy with
  | source => exact source
  | meanwhile _ m leaves ih => exact bears_step lasting ih leaves
  | exported _ held ok ih => exact bears_export held ih ok
  | importManaged copy held ok ih =>
    exact bears_importManaged lasting (copy.chain.balanced start) (copy.chain.valid valid) held ih ok
  | importRaw copy held ok ih =>
    exact bears_importRaw lasting (copy.chain.balanced start) (copy.chain.valid valid) held ih ok

/-- **Checked views are the readable ones.** Of any handle and with any shape, strides and place, a
view is granted with the check of its extent if and only if it is granted without, and what is made
reaches nothing outside of its extent; both views are the same, in the same store. Once a client has
made such a view with the check, every copy of it that is held, cloned or taken in again from an
export, reaches nothing outside of its extent, and whatever it is refused for when it is read, in one
run or by walking, it is not its shape. -/
theorem checked_views_are_readable (moves : List Move) (h : Handle) (r : ViewRequest) :
    let c := run {} moves
    (∀ config v s', c.store.view config h (r.checking true) = .ok (v, s') ↔
      c.store.view config h (r.checking false) = .ok (v, s') ∧ s'.Contained v) ∧
      (∀ config v s' v₂ s₂, c.store.view config h (r.checking true) = .ok (v, s') →
        c.store.view config h (r.checking false) = .ok (v₂, s₂) → v₂ = v ∧ s₂ = s') ∧
      ∀ v s', h ∈ c.handles → c.store.view c.config h (r.checking true) = .ok (v, s') →
        ∀ c' copy, Copy (c.step (.view h (r.checking true))) v c' (.handle copy) →
          (copy ∈ c'.handles → c'.store.Contained copy) ∧
            ∀ t f, c'.store.elements t copy = .error f ∨ c'.store.gather t copy = .error f →
              f.kind ≠ .invalidShape := by
  intro c
  refine ⟨fun config v s' => Store.view_checking_iff, fun config v s' v₂ s₂ ok ok₂ => ?_,
    fun v s' held ok c' copy copied => ?_⟩
  · obtain ⟨unchecked, -⟩ := Store.view_checking_iff.1 ok
    rw [unchecked] at ok₂
    cases ok₂
    exact ⟨rfl, rfl⟩
  · have permitted : c.permits (.view h (r.checking true)) := decide_eq_true held
    have step : c.step (.view h (r.checking true)) = run {} (moves ++ [.view h (r.checking true)]) :=
      (run_append {} moves [_]).symm
    have made : (c.step (.view h (r.checking true))).store = s' := by
      rw [step_of_permits permitted, act, ok, settle]
    obtain ⟨-, id, st, rfl, live, contained⟩ := Store.view_checking_iff.1 ok
    rw [← made] at live
    have balanced : Balanced (c.step (.view h (r.checking true))) :=
      step ▸ balanced_run balanced_empty _
    have bears := copied.bears Storage.lasting_contained balanced (step ▸ valid_run _)
      (.of_live live contained)
    obtain ⟨i, rfl, -, inside⟩ := bears
    have contained' : ∀ j st, (⟨some i⟩ : Handle) = ⟨some j⟩ →
        c'.store.storages.get? j = some st → st.Contained := by
      intro j st heq found
      cases heq
      exact inside st found
    refine ⟨fun held' => ?_, fun t f refused => ?_⟩
    · obtain ⟨st', live'⟩ := (copied.chain.balanced balanced).live_of_mem_handles held'
      exact ⟨i, st', rfl, live', inside st' live'⟩
    · rcases refused with refused | refused
      · exact Store.kind_ne_of_elements contained' refused
      · exact Store.kind_ne_of_gather contained' refused

/-- Rows and columns exchanged, with the check; a clone of the view is exported and taken in again. A
square that the buffer has no room for is granted without the check only. -/
theorem checked_views_are_readable_columns :
    let moves : List Move := [.ofList .uint8 [1, 2, 3, 4, 5, 6] [2, 3]]
    let r : ViewRequest := { shape := some [3, 2], strides := some [1, 3] }
    let square : ViewRequest := { shape := some [3, 3] }
    let c := run {} moves
    let c' := (c.step (.view ⟨some 0⟩ (r.checking true))).run
      [.clone ⟨some 1⟩, .exportHandle ⟨some 1⟩, .importManaged 0]
    (⟨some 0⟩ ∈ c.handles ∧
      (∃ v s', c.store.view {} ⟨some 0⟩ (r.checking true) = .ok (v, s') ∧ s'.Contained v) ∧
      ∃ v s', c.store.view {} ⟨some 0⟩ (square.checking false) = .ok (v, s') ∧
        ¬ s'.Contained v) ∧
      c'.store.Contained ⟨some 2⟩ ∧ c'.store.gather .uint8 ⟨some 2⟩ = .ok [1, 4, 2, 5, 3, 6] := by
  intro moves r square c c'
  have held : ⟨some 0⟩ ∈ c.handles := by decide +kernel
  obtain ⟨views, -, copies⟩ := checked_views_are_readable moves ⟨some 0⟩ r
  obtain ⟨squares, -⟩ := checked_views_are_readable moves ⟨some 0⟩ square
  obtain ⟨s', ok⟩ := exists_of_made (by decide +kernel : (c.store.view c.config ⟨some 0⟩
    (r.checking true)).toOption.map Prod.fst = some ⟨some 1⟩)
  let c₁ := c.step (.view ⟨some 0⟩ (r.checking true))
  let c₂ := c₁.step (.clone ⟨some 1⟩)
  let c₃ := c₂.step (.exportHandle ⟨some 1⟩)
  have cloned : Copy c₁ ⟨some 1⟩ c₂ (.handle ⟨some 1⟩) :=
    .meanwhile (.source (by decide +kernel)) _ nofun
  have exported : Copy c₁ ⟨some 1⟩ c₃ (.record 0) := by
    obtain ⟨s, ok⟩ := exists_of_made (by decide +kernel :
      (c₂.store.exportRecord c₂.config ⟨some 1⟩).toOption.map Prod.fst = some 0)
    exact .exported cloned (by decide +kernel) ok
  have imported : Copy c₁ ⟨some 1⟩ (c₃.step (.importManaged 0)) (.handle ⟨some 2⟩) := by
    obtain ⟨s, ok⟩ := exists_of_taken (by decide +kernel :
      (c₃.store.importRecord c₃.config 0).1.toOption = some ⟨some 2⟩)
    exact .importManaged exported (by decide +kernel) ok
  have steps : c' = c₃.step (.importManaged 0) := by
    simp only [c', c₃, c₂, c₁, run_cons, run_nil]
  rw [← steps] at imported
  obtain ⟨⟨v, s''⟩, unchecked⟩ := exists_of_isOk
    (by decide +kernel : (c.store.view {} ⟨some 0⟩ (square.checking false)).isOk)
  have refused : ¬ (c.store.view {} ⟨some 0⟩ (square.checking true)).isOk := by decide +kernel
  refine ⟨⟨held, ⟨_, s', ok, ((views {} _ s').1 ok).2⟩, v, s'', unchecked, fun contained => ?_⟩, ?_,
    ?_⟩
  · rw [(squares {} v s'').2 ⟨unchecked, contained⟩] at refused
    exact refused rfl
  · exact (copies _ s' held ok c' _ imported).1 (by decide +kernel)
  · decide +kernel

end Client

end SharedTensor
