import SharedTensor.Proofs.Client.Carry

/-!
# Chains of views and exchanges

A chain leads from a handle through views that start where their source does and through exports that
are taken in again, while the client goes on with other things in between (`Client.Chain`). Each link
has its own way to inherit what it does not change: a view takes it from its source, an import from
the record and, for the bytes it may read, from the storage that the record refers to. What is carried
along is the same all the way (`Chain.carried`): at the end of the chain stands a storage that is
alike the one at its start. So the layouts in between leave no trace, and a view from the end of the
chain is a view of the start (`chain_collapses`).
-/

namespace SharedTensor

namespace Client

/-- The moves from a handle that the client holds to what is made of it by views in place, exports
and imports, all of which succeed. In between anything may happen, but nobody overwrites the record
that the chain has led to. -/
inductive Chain (c₀ : Client) (h₀ : Handle) : Client → Carrier → Prop
  | source (held : h₀ ∈ c₀.handles) : Chain c₀ h₀ c₀ (.handle h₀)
  | meanwhile {c : Client} {x : Carrier} (chain : Chain c₀ h₀ c x) (m : Move)
      (leaves : ∀ r header, x = .record r → m ≠ .overwrite r header) : Chain c₀ h₀ (c.step m) x
  | view {c : Client} {h h' : Handle} {request : ViewRequest} {s : Store}
      (chain : Chain c₀ h₀ c (.handle h)) (held : h ∈ c.handles) (inPlace : request.data = none)
      (ok : c.store.view c.config h request = .ok (h', s)) :
      Chain c₀ h₀ (c.step (.view h request)) (.handle h')
  | exported {c : Client} {h : Handle} {r : RecordId} {s : Store}
      (chain : Chain c₀ h₀ c (.handle h)) (held : h ∈ c.handles)
      (ok : c.store.exportRecord c.config h = .ok (r, s)) :
      Chain c₀ h₀ (c.step (.exportHandle h)) (.record r)
  | importManaged {c : Client} {h : Handle} {r : RecordId} {s : Store}
      (chain : Chain c₀ h₀ c (.record r)) (held : r ∈ c.managed)
      (ok : c.store.importRecord c.config r = (.ok h, s)) :
      Chain c₀ h₀ (c.step (.importManaged r)) (.handle h)
  | importRaw {c : Client} {h : Handle} {r : RecordId} {s : Store}
      (chain : Chain c₀ h₀ c (.record r)) (held : r ∈ c.raw)
      (ok : c.store.importRecord c.config r = (.ok h, s)) :
      Chain c₀ h₀ (c.step (.importRaw r)) (.handle h)

variable {c c₀ : Client} {h₀ h : Handle} {x : Carrier} {st₀ : Storage} {t : Turn} {s s' : Store}

theorem lasting_alike (st₀ : Storage) : Storage.Lasting st₀.Alike :=
  fun _ _ same first => first.trans same.alike

/-! ## The links of a chain -/

theorem bears_view {h' : Handle} {request : ViewRequest} (held : h ∈ c.handles)
    (bears : Bears st₀.Alike c.store (.handle h)) (inPlace : request.data = none)
    (ok : c.store.view c.config h request = .ok (h', s)) :
    Bears st₀.Alike (c.step (.view h request)).store (.handle h') := by
  have permitted : c.permits (.view h request) := decide_eq_true held
  rw [step_of_permits permitted, act, ok]
  obtain ⟨id, source, rfl, live, -, made⟩ := Store.view_eq_ok ok
  cases made
  have first : st₀.Alike source := bears.of_handle live
  refine .of_live (Store.get?_view live _ _) ⟨?_, first.extent, ?_, first.elementType, first.device⟩
  · rw [inPlace]
    exact first.data
  · simp only [ViewRequest.descriptor, inPlace]
    exact first.byteOffset

/-! ## Chains -/

/-- A chain is made of moves. -/
theorem Chain.exists_run (chain : Chain c₀ h₀ c x) : ∃ moves, c = c₀.run moves := by
  have next {c : Client} (m : Move) (run : ∃ moves, c = c₀.run moves) :
      ∃ moves, c.step m = c₀.run moves := by
    obtain ⟨moves, rfl⟩ := run
    exact ⟨moves ++ [m], (run_append c₀ moves [m]).symm⟩
  induction chain with
  | source => exact ⟨[], rfl⟩
  | meanwhile _ m _ ih => exact next m ih
  | view | exported | importManaged | importRaw => next ih => exact next _ ih

theorem Chain.balanced (chain : Chain c₀ h₀ c x) (start : Balanced c₀) : Balanced c := by
  obtain ⟨moves, rfl⟩ := chain.exists_run
  exact balanced_run start moves

theorem Chain.valid (chain : Chain c₀ h₀ c x) (start : c₀.store.Valid) : c.store.Valid := by
  obtain ⟨moves, rfl⟩ := chain.exists_run
  rw [← play_moves]
  exact play_induction (fun _ _ _ _ e v => e.valid v) start _

/-- **Every link carries along what the chain began with.** -/
theorem Chain.carried {id₀ : StorageId} (chain : Chain c₀ ⟨some id₀⟩ c x) (start : Balanced c₀)
    (valid : c₀.store.Valid) (live : c₀.store.storages.get? id₀ = some st₀) :
    Bears st₀.Alike c.store x := by
  have lasting := lasting_alike st₀
  induction chain with
  | source => exact .of_live live (.refl st₀)
  | meanwhile _ m leaves ih => exact bears_step lasting ih leaves
  | view _ held inPlace ok ih => exact bears_view held ih inPlace ok
  | exported _ held ok ih => exact bears_export held ih ok
  | importManaged chain held ok ih =>
    exact bears_importManaged lasting (chain.balanced start) (chain.valid valid) held ih ok
  | importRaw chain held ok ih =>
    exact bears_importRaw lasting (chain.balanced start) (chain.valid valid) held ih ok

/-- From an empty handle nothing can be made. -/
theorem Chain.eq_of_empty (chain : Chain c₀ ⟨none⟩ c x) : x = .handle ⟨none⟩ := by
  induction chain with
  | source => rfl
  | meanwhile _ _ _ ih => exact ih
  | view _ _ _ ok ih =>
    obtain rfl := Carrier.handle.inj ih
    cases ok
  | exported _ _ ok ih =>
    obtain rfl := Carrier.handle.inj ih
    cases ok
  | importManaged _ _ _ ih | importRaw _ _ _ ih => cases ih

/-- A storage that is there before and after a chain is alike. -/
theorem Chain.alike {id : StorageId} {st : Storage} (chain : Chain c₀ h₀ c x)
    (live₀ : c₀.store.storages.get? id = some st₀) (live : c.store.storages.get? id = some st) :
    st₀.Alike st := by
  obtain ⟨moves, rfl⟩ := chain.exists_run
  rw [← play_moves] at live
  obtain ⟨old, found, kept, -⟩ :=
    (later_play c₀ (moves.map .move)).kept id st (Table.lt_next_of_get? live₀) live
  rw [Option.some.inj (live₀.symm.trans found)]
  exact kept.same.alike

/-- The handle that a chain began with was held then. -/
theorem Chain.held (chain : Chain c₀ h₀ c x) : h₀ ∈ c₀.handles := by
  induction chain with
  | source held => exact held
  | meanwhile _ _ _ ih => exact ih
  | view | exported | importManaged | importRaw => next ih => exact ih

/-- **Chains collapse.** A view with a shape and strides of its own, of what a chain of views in place,
exports and imports has led to, is the same view of the handle that the chain began with, as long as
that is held: it is refused with the same fault, and what is made of it has the same descriptor, data
pointer and extent, so the same is read of it, or refused, whatever is in memory. -/
theorem chain_collapses (moves : List Move) (h₀ h : Handle) (c : Client)
    (chain : Chain (run {} moves) h₀ c (.handle h)) (held₀ : h₀ ∈ c.handles) (held : h ∈ c.handles)
    (config : Config) (shape strides : List Int64) (check : Option Bool) :
    let r : ViewRequest := { shape := some shape, strides := some strides, checkExtent := check }
    (∀ f, c.store.view config h₀ r = .error f ↔ c.store.view config h r = .error f) ∧
      ∀ v₀ v s₀ s, c.store.view config h₀ r = .ok (v₀, s₀) → c.store.view config h r = .ok (v, s) →
        (∃ i₀ i st₀ st, v₀ = ⟨some i₀⟩ ∧ s₀.storages.get? i₀ = some st₀ ∧
          v = ⟨some i⟩ ∧ s.storages.get? i = some st ∧ st.descriptor = st₀.descriptor ∧
          st.data = st₀.data ∧ st.extent = st₀.extent) ∧
        s.host = s₀.host ∧ ∀ memory t,
          (s.withMemory memory).elements t v = (s₀.withMemory memory).elements t v₀ ∧
            (s.withMemory memory).gather t v = (s₀.withMemory memory).gather t v₀ := by
  intro r
  have start : Balanced (run {} moves) := balanced_run balanced_empty moves
  obtain ⟨target⟩ := h₀
  cases target with
  | none =>
    obtain rfl := Carrier.handle.inj chain.eq_of_empty
    refine ⟨fun f => Iff.rfl, fun v₀ v s₀ s made => ?_⟩
    cases made
  | some id₀ =>
    obtain ⟨first, live⟩ := start.live_of_mem_handles chain.held
    obtain ⟨source₀, live₀⟩ := (chain.balanced start).live_of_mem_handles held₀
    obtain ⟨id, rfl, -, alike⟩ := chain.carried start (valid_run moves) live
    obtain ⟨source, live'⟩ := (chain.balanced start).live_of_mem_handles held
    have same : source₀.Alike source :=
      (chain.alike live live₀).symm.trans (alike source live')
    obtain ⟨faults, made⟩ := Store.view_congr (c := config) (r := r) rfl rfl live₀ live' same
    refine ⟨faults, fun v₀ v s₀ s ok₀ ok => ?_⟩
    obtain ⟨i₀, i, st₀, st, rfl, found₀, rfl, found, view, host⟩ := made v₀ v s₀ s ok₀ ok
    refine ⟨⟨i₀, i, st₀, st, rfl, found₀, rfl, found, view.descriptor, view.data, view.extent⟩,
      host, fun memory t => ?_⟩
    have found₀' : (s₀.withMemory memory).storages.get? i₀ = some st₀ := found₀
    have found' : (s.withMemory memory).storages.get? i = some st := found
    exact ⟨Store.elements_congr found₀' found' view rfl t,
      Store.gather_congr found₀' found' view rfl t⟩

/-- What an operation has made, next to the store. -/
theorem exists_of_made {α β : Type} {result : Except Fault (α × β)} {a : α}
    (made : result.toOption.map Prod.fst = some a) : ∃ b, result = .ok (a, b) := by
  cases result with
  | error f => cases made
  | ok both => exact ⟨both.2, by rw [← Option.some.inj made]⟩

/-- What an import has made, next to the store. -/
theorem exists_of_taken {α β : Type} {result : Except Fault α × β} {a : α}
    (taken : result.1.toOption = some a) : ∃ b, result = (.ok a, b) := by
  obtain ⟨made, b⟩ := result
  cases made with
  | error f => cases taken
  | ok a' => exact ⟨b, by rw [← Option.some.inj taken]⟩

/-- A square of a list, viewed by way of a view that is too large for the list and that has been
exported and taken in again. -/
theorem chain_collapses_oversized :
    let c₀ := run {} [.ofList .uint8 [1, 2, 3, 4, 5, 6] [2, 3]]
    let c := c₀.run [.view ⟨some 0⟩ { shape := some [64, 64] }, .exportHandle ⟨some 1⟩,
      .drop ⟨some 1⟩, .importManaged 0]
    ∃ v s, c.store.view {} ⟨some 2⟩ { shape := some [2, 2], strides := some [3, 1] } = .ok (v, s) ∧
      s.gather .uint8 v = .ok [1, 2, 4, 5] := by
  intro c₀ c
  let c₁ := c₀.step (.view ⟨some 0⟩ { shape := some [64, 64] })
  let c₂ := c₁.step (.exportHandle ⟨some 1⟩)
  let c₃ := c₂.step (.drop ⟨some 1⟩)
  have viewed : Chain c₀ ⟨some 0⟩ c₁ (.handle ⟨some 1⟩) := by
    obtain ⟨s, ok⟩ := exists_of_made (by decide +kernel : (c₀.store.view c₀.config ⟨some 0⟩
      { shape := some [64, 64] }).toOption.map Prod.fst = some ⟨some 1⟩)
    exact .view (.source (by decide +kernel)) (by decide +kernel) rfl ok
  have exported : Chain c₀ ⟨some 0⟩ c₂ (.record 0) := by
    obtain ⟨s, ok⟩ := exists_of_made (by decide +kernel :
      (c₁.store.exportRecord c₁.config ⟨some 1⟩).toOption.map Prod.fst = some 0)
    exact .exported viewed (by decide +kernel) ok
  have dropped : Chain c₀ ⟨some 0⟩ c₃ (.record 0) := exported.meanwhile _ nofun
  have imported : Chain c₀ ⟨some 0⟩ (c₃.step (.importManaged 0)) (.handle ⟨some 2⟩) := by
    obtain ⟨s, ok⟩ := exists_of_taken (by decide +kernel :
      (c₃.store.importRecord c₃.config 0).1.toOption = some ⟨some 2⟩)
    exact .importManaged dropped (by decide +kernel) ok
  have steps : c = c₃.step (.importManaged 0) := by simp only [c, c₃, c₂, c₁, run_cons, run_nil]
  rw [← steps] at imported
  let r : ViewRequest := { shape := some [2, 2], strides := some [3, 1] }
  have read : (c.store.view {} ⟨some 0⟩ r).map (fun made => made.2.gather .uint8 made.1) =
      .ok (.ok [1, 2, 4, 5]) := by decide +kernel
  obtain ⟨⟨v₀, s₀⟩, ok₀⟩ := exists_of_isOk
    (by decide +kernel : (c.store.view {} ⟨some 0⟩ r).isOk)
  obtain ⟨⟨v, s⟩, ok⟩ := exists_of_isOk (by decide +kernel : (c.store.view {} ⟨some 2⟩ r).isOk)
  rw [ok₀] at read
  obtain ⟨-, host, same⟩ := (chain_collapses _ ⟨some 0⟩ ⟨some 2⟩ c imported (by decide +kernel)
    (by decide +kernel) {} [2, 2] [3, 1] none).2 v₀ v s₀ s ok₀ ok
  have gathered := (same s.host.memory .uint8).2
  rw [host] at gathered
  have back : s.withMemory s₀.host.memory = s := by rw [← host]; rfl
  rw [back] at gathered
  exact ⟨v, s, ok, gathered.trans (Except.ok.inj read)⟩

end Client

end SharedTensor
