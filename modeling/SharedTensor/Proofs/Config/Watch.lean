import SharedTensor.Proofs.Config.Desk

/-!
# What receivers are told

A receiver that is held under a name knows the configuration in force, and tells that something has changed
exactly if a configuration came into force since it was added or last asked (`HasNews`). The invariant
(`Follows`) says this of all names at once, and that no two names hold the same receiver, so that what
happens to one name leaves the others alone. Each step keeps it (`Turn.follows`), and so does a history
(`follows_run`). The main statement is `receivers_miss_nothing`.
-/

namespace SharedTensor

namespace Manager

/-- Of a receiver that is asked it is noted that it has looked. -/
theorem get?_look (m : Manager) (id i : ReceiverId) :
    (m.look id).2.receivers.get? i =
      if i = id then (m.receivers.get? i).map fun r => { r with changed := false }
      else m.receivers.get? i := by
  cases hr : m.receivers.get? id with
  | none =>
    simp only [look, hr]
    by_cases same : i = id
    · rw [if_pos same, same, hr, Option.map_none]
    · rw [if_neg same]
  | some r =>
    simp only [look, hr]
    exact Table.get?_update _ _ _ _

theorem config_look (m : Manager) (id : ReceiverId) : (m.look id).2.config = m.config := by
  unfold look
  split <;> rfl

end Manager

namespace Desk

variable {d d' : Desk} {s : Step} {steps : List Step} {news : String → Prop} {name other : String}
  {id : ReceiverId} {c : Config}

/-- A configuration came into force in the course of a history, and after that the receiver under a name
was neither added nor asked. -/
def HasNews (d : Desk) (steps : List Step) (name : String) : Prop :=
  ∃ before s after, steps = before ++ s :: after ∧ ((d.run before).enacted? s).isSome ∧
    .watch name ∉ after ∧ .look name ∉ after

theorem hasNews_concat : d.HasNews (steps ++ [s]) name ↔
    ((d.run steps).enacted? s).isSome ∨ d.HasNews steps name ∧ s ≠ .watch name ∧ s ≠ .look name := by
  constructor
  · rintro ⟨before, t, after, split, enacted, watch, look⟩
    -- The step that is appended either brought the configuration into force or came after that.
    obtain rfl | ⟨after, last, rfl⟩ := List.eq_nil_or_concat after
    · obtain ⟨rfl, ⟨rfl, -⟩⟩ := List.append_inj' split rfl
      exact .inl enacted
    · rw [List.concat_eq_append, ← List.cons_append, ← List.append_assoc] at split
      obtain ⟨rfl, ⟨rfl, -⟩⟩ := List.append_inj' split rfl
      simp only [List.concat_eq_append, List.mem_append, List.mem_singleton, not_or] at watch look
      exact .inr ⟨⟨before, t, after, rfl, enacted, watch.1, look.1⟩, Ne.symm watch.2, Ne.symm look.2⟩
  · rintro (enacted | ⟨⟨before, t, after, rfl, enacted, watch, look⟩, notWatch, notLook⟩)
    · exact ⟨steps, s, [], rfl, enacted, by simp, by simp⟩
    · refine ⟨before, t, after ++ [s], by simp, enacted, ?_, ?_⟩
      · simp [watch, Ne.symm notWatch]
      · simp [look, Ne.symm notLook]

/-! ## The invariant -/

/-- A receiver is held, knows the configuration in force, and tells whether there is news. -/
structure Tells (d : Desk) (id : ReceiverId) (news : Prop) (r : Receiver) : Prop where
  row : d.manager.receivers.get? id = some r
  held : r.held = true
  newest : r.newest = d.manager.config
  changed : r.changed = true ↔ news

/-- Every name has a receiver that tells whether there is news for the name, and has it for itself. -/
structure Follows (d : Desk) (news : String → Prop) : Prop where
  tells : ∀ name id, d.receivers.get? name = some id → ∃ r, d.Tells id (news name) r
  apart : ∀ name other id, d.receivers.get? name = some id → d.receivers.get? other = some id →
    name = other

theorem Tells.frame {n n' : Prop} {r : Receiver} (h : d.Tells id n r)
    (row : d'.manager.receivers.get? id = d.manager.receivers.get? id)
    (config : d'.manager.config = d.manager.config) (same : n ↔ n') : d'.Tells id n' r :=
  ⟨row.trans h.row, h.held, h.newest.trans config.symm, h.changed.trans same⟩

/-- A configuration that comes into force is news for everyone. -/
theorem Follows.enact (h : d.Follows news) (names : d'.receivers = d.receivers)
    (rows : d'.manager.receivers = (d.manager.enact c).receivers) (config : d'.manager.config = c) :
    d'.Follows fun _ => True := by
  refine ⟨fun name id hid => ?_, by rw [names]; exact h.apart⟩
  rw [names] at hid
  obtain ⟨r, row, held, -, -⟩ := h.tells name id hid
  refine ⟨{ r with newest := c, changed := true }, ?_, held, config.symm, by simp⟩
  rw [rows, Manager.get?_enact, row, Option.bind_some, if_pos held]

theorem get?_watch (i : ReceiverId) (mine : d.receivers.get? name ≠ some i) :
    (d.watch name).manager.receivers.get? i =
      if i = d.manager.receivers.next then some { newest := d.manager.config }
      else d.manager.receivers.get? i := by
  simp only [watch, Manager.watch]
  cases hold : d.receivers.get? name with
  | none => exact Table.get?_add _ _ _
  | some old =>
    have other : i ≠ old := by
      rintro rfl
      exact mine hold
    simp [Manager.unwatch, other]

theorem config_watch (d : Desk) (name : String) :
    (d.watch name).manager.config = d.manager.config := by
  simp only [watch]
  split <;> rfl

/-- A new receiver knows the configuration in force and has no news. -/
theorem Follows.watch (h : d.Follows news) (name : String) :
    (d.watch name).Follows fun other => other ≠ name ∧ news other := by
  have names (other : String) : (d.watch name).receivers.get? other =
      if other = name then some d.manager.receivers.next else d.receivers.get? other :=
    Slots.get?_set _ _ _ _
  -- The number of the new receiver was never handed out before, so no name has it.
  have old {other : String} {id : ReceiverId} (hid : d.receivers.get? other = some id) :
      id ≠ d.manager.receivers.next := by
    obtain ⟨r, hr⟩ := h.tells other id hid
    exact Nat.ne_of_lt (Table.lt_next_of_get? hr.row)
  constructor
  case tells =>
    intro other id hid
    rw [names] at hid
    split at hid
    · next same =>
      obtain rfl := Option.some.inj hid
      refine ⟨{ newest := d.manager.config }, ?_, rfl, (config_watch d name).symm, by simp [same]⟩
      rw [get?_watch _ fun mine => old mine rfl, if_pos rfl]
    · next differs =>
      obtain ⟨r, hr⟩ := h.tells other id hid
      refine ⟨r, hr.frame ?_ (config_watch d name) (by simp [differs])⟩
      rw [get?_watch _ fun mine => differs (h.apart _ _ _ hid mine), if_neg (old hid)]
  case apart =>
    intro one two id h₁ h₂
    rw [names] at h₁ h₂
    split at h₁ <;> split at h₂
    · next e₁ e₂ => exact e₁.trans e₂.symm
    · exact absurd (Option.some.inj h₁).symm (old h₂)
    · exact absurd (Option.some.inj h₂).symm (old h₁)
    · exact h.apart one two id h₁ h₂

/-- A receiver that is asked has no more news; the others are left alone. -/
theorem Follows.look (h : d.Follows news) (name : String) :
    (d.look name).2.Follows fun other => other ≠ name ∧ news other := by
  cases hname : d.receivers.get? name with
  | none =>
    have nothing : (d.look name).2 = d := by simp only [Desk.look, hname]
    rw [nothing]
    refine ⟨fun other id hid => ?_, h.apart⟩
    have differs : other ≠ name := by
      rintro rfl
      rw [hid] at hname
      cases hname
    obtain ⟨r, hr⟩ := h.tells other id hid
    exact ⟨r, hr.frame rfl rfl (by simp [differs])⟩
  | some mine =>
    have looked : (d.look name).2 = { d with manager := (d.manager.look mine).2 } := by
      simp only [Desk.look, hname]
    rw [looked]
    refine ⟨fun other id hid => ?_, h.apart⟩
    obtain ⟨r, hr⟩ := h.tells other id hid
    by_cases same : other = name
    · subst same
      obtain rfl := Option.some.inj (hname.symm.trans hid)
      refine ⟨{ r with changed := false }, ?_, hr.held, ?_, by simp⟩
      · rw [Manager.get?_look, if_pos rfl, hr.row, Option.map_some]
      · exact hr.newest.trans (Manager.config_look _ _).symm
    · have differs : id ≠ mine := by
        rintro rfl
        exact same (h.apart _ _ _ hid hname)
      refine ⟨r, hr.frame ?_ (Manager.config_look _ _) (by simp [same])⟩
      rw [Manager.get?_look, if_neg differs]

/-- Letting go of a receiver leaves the configuration and the other receivers alone. -/
theorem unwatch_other (h : d.Follows news) (differs : other ≠ name)
    (hid : d.receivers.get? other = some id) :
    (d.unwatch name).2.receivers.get? other = some id ∧
      (d.unwatch name).2.manager.receivers.get? id = d.manager.receivers.get? id ∧
      (d.unwatch name).2.manager.config = d.manager.config := by
  simp only [Desk.unwatch]
  cases hname : d.receivers.get? name with
  | none => exact ⟨hid, rfl, rfl⟩
  | some mine =>
    have apart : id ≠ mine := by
      rintro rfl
      exact differs (h.apart _ _ _ hid hname)
    simp [Manager.unwatch, differs, hid, apart]

theorem Follows.unwatch (h : d.Follows news) (name : String) : (d.unwatch name).2.Follows news := by
  have names {other : String} {id : ReceiverId}
      (hid : (d.unwatch name).2.receivers.get? other = some id) :
      other ≠ name ∧ d.receivers.get? other = some id := by
    simp only [Desk.unwatch] at hid
    cases hname : d.receivers.get? name with
    | none =>
      rw [hname] at hid
      refine ⟨?_, hid⟩
      rintro rfl
      exact absurd (hname.symm.trans hid) (by simp)
    | some mine => rw [hname] at hid; simpa using hid
  constructor
  case tells =>
    intro other id hid
    obtain ⟨differs, kept⟩ := names hid
    obtain ⟨r, hr⟩ := h.tells other id kept
    obtain ⟨-, row, config⟩ := unwatch_other h differs kept
    exact ⟨r, hr.frame row config Iff.rfl⟩
  case apart =>
    intro one two id h₁ h₂
    exact h.apart one two id (names h₁).2 (names h₂).2

/-! ## Histories -/

theorem Follows.of_iff {news' : String → Prop} (h : d.Follows news)
    (same : ∀ name, news name ↔ news' name) : d.Follows news' := by
  rwa [← funext fun name => propext (same name)]

theorem Follows.tick (h : d.Follows news) : d.tick.Follows news := by
  refine ⟨fun name id hid => ?_, h.apart⟩
  obtain ⟨r, hr⟩ := h.tells name id hid
  exact ⟨r, hr.frame rfl rfl Iff.rfl⟩

/-- What a step does to the news: a configuration that comes into force is news for everyone, and otherwise
the name that is added or asked has none. -/
theorem Turn.follows (turn : Turn d s d') (h : d.Follows news) :
    d'.Follows fun name =>
      (d.enacted? s).isSome ∨ news name ∧ s ≠ .watch name ∧ s ≠ .look name := by
  cases turn with
  | @loads s path c enacted =>
    have everyone : (d.loaded path c).Follows fun _ => True := h.enact rfl rfl rfl
    exact everyone.of_iff fun name => by simp [enacted]
  | @updates s c disk enacted =>
    have everyone : Follows { d with manager := d.manager.enact c, disk } fun _ => True :=
      h.enact rfl rfl rfl
    exact everyone.of_iff fun name => by simp [enacted]
  | keeps nothing aimless =>
    have others (name : String) : s ≠ .watch name ∧ s ≠ .look name := by
      constructor <;>
      · rintro rfl
        cases aimless
    refine ⟨fun name id hid => ?_, h.apart⟩
    obtain ⟨r, hr⟩ := h.tells name id hid
    exact ⟨r, hr.frame rfl rfl (by simp [nothing, others])⟩
  | watches name =>
    refine (h.watch name).of_iff fun other => ?_
    simp [enacted?, and_comm, eq_comm]
  | looks name =>
    refine (h.look name).of_iff fun other => ?_
    simp [enacted?, and_comm, eq_comm]
  | unwatches name =>
    refine (h.unwatch name).of_iff fun other => ?_
    simp [enacted?]

/-- After a history from a desk without receivers, each tells the news of the history. -/
theorem follows_run (start : ∀ name, d.receivers.get? name = none) (steps : List Step) :
    (d.run steps).Follows (d.HasNews steps) := by
  induction steps using List.reverseRecOn with
  | nil => exact ⟨fun name id hid => by simp [start] at hid, fun name _ id hid => by simp [start] at hid⟩
  | append_singleton steps s ih =>
    have turned := ((turn_act (d.run steps) s).follows ih).of_iff fun name => hasNews_concat.symm
    rw [run_append]
    exact turned.tick

/-- Letting go of any receivers but the one under a name leaves that one and the configuration alone. -/
theorem run_unwatch (h : d.Follows news) {names : List String} (differs : name ∉ names)
    (hid : d.receivers.get? name = some id) :
    (d.run (names.map .unwatch)).receivers.get? name = some id ∧
      (d.run (names.map .unwatch)).manager.receivers.get? id = d.manager.receivers.get? id ∧
      (d.run (names.map .unwatch)).manager.config = d.manager.config := by
  induction names generalizing d with
  | nil => exact ⟨hid, rfl, rfl⟩
  | cons gone rest ih =>
    simp only [List.mem_cons, not_or] at differs
    obtain ⟨kept, row, config⟩ := unwatch_other h differs.1 hid
    obtain ⟨kept', row', config'⟩ := ih (h.unwatch gone).tick differs.2 kept
    exact ⟨kept', row'.trans row, config'.trans config⟩

/-- After any history from a desk without receivers, a receiver under a name is held and knows the
configuration in force, and it tells of a change exactly if a configuration came into force since it was
added or last asked. Letting go of others leaves it alone. -/
theorem receivers_miss_nothing {start : Desk} (new : ∀ name, start.receivers.get? name = none)
    (steps : List Step) (name : String) (id : ReceiverId)
    (hid : (start.run steps).receivers.get? name = some id) :
    ∃ r, (start.run steps).manager.receivers.get? id = some r ∧ r.held = true ∧
      r.newest = (start.run steps).manager.config ∧
      (r.changed = true ↔ start.HasNews steps name) ∧
      ((start.run steps).act (.look name)).1 = .seen r.changed r.newest ∧
      ∀ others : List String, name ∉ others →
        ((start.run steps).run (others.map .unwatch)).receivers.get? name = some id ∧
          ((start.run steps).run (others.map .unwatch)).manager.receivers.get? id = some r ∧
          ((start.run steps).run (others.map .unwatch)).manager.config =
            (start.run steps).manager.config := by
  have follows : (start.run steps).Follows (start.HasNews steps) := follows_run new steps
  obtain ⟨r, hr⟩ := follows.tells name id hid
  refine ⟨r, hr.row, hr.held, hr.newest, hr.changed, ?_, fun others differs => ?_⟩
  · simp only [act, Desk.look, hid, Manager.look, hr.row]
  · obtain ⟨kept, row, config⟩ := run_unwatch follows differs hid
    exact ⟨kept, row.trans hr.row, config⟩

/-- An update that cannot be written, of which one of two receivers has heard when it is asked. -/
theorem receivers_miss_nothing_unwritten :
    let start : Desk := { manager := { file := some "x" }, disk := Disk.withFolder "x" }
    let steps : List Step :=
      [.watch "a", .watch "b", .update { hostAlignment := some 32 }, .look "b"]
    (start.run steps).receivers.get? "a" = some 0 ∧
      (start.run steps).manager.config.storage.hostAlignment = 32 ∧
      ∃ r, r.changed = true ∧ r.newest = (start.run steps).manager.config ∧
        ((start.run steps).run (["b"].map .unwatch)).manager.receivers.get? 0 = some r := by
  intro start steps
  have first : (start.run steps).receivers.get? "a" = some 0 := by cbv
  have inForce : (start.run steps).manager.config.storage.hostAlignment = 32 := by cbv
  have news : start.HasNews steps "a" :=
    ⟨[.watch "a", .watch "b"], .update { hostAlignment := some 32 }, [.look "b"], rfl, by cbv,
      by simp, by simp⟩
  obtain ⟨r, -, -, newest, changed, -, others⟩ :=
    receivers_miss_nothing (fun _ => rfl) steps "a" 0 first
  obtain ⟨-, kept, -⟩ := others ["b"] (by decide)
  exact ⟨first, inForce, r, changed.2 news, newest, kept⟩

end Desk

end SharedTensor
