import SharedTensor.Proofs.Client.Change

/-!
# Storages are written once

From its creation to its release a storage keeps its data pointer, its descriptor and its extent.
Its release changes at most once, from that of memory which nobody is told about to that of an owner
who is told, and only by an adoption that succeeds, which takes the one reference there is. What a
store has become of another is a relation (`Store.Later`) that small changes have and that composes,
so it leads from any moment of a run to any later one (`Client.later_play`), whatever clones, views,
exports and foreign hands there have been in between.
-/

namespace SharedTensor

theorem Storage.Kept.trans {st st' st'' : Storage} (first : st.Kept st') (second : st'.Kept st'') :
    st.Kept st'' where
  data := second.data.trans first.data
  descriptor := second.descriptor.trans first.descriptor
  extent := second.extent.trans first.extent
  release := by
    rcases first.release with same | ⟨unowned, owner, external⟩
    · rw [← same]
      exact second.release
    · rcases second.release with same | ⟨unowned', -⟩
      · exact .inr ⟨unowned, owner, same.trans external⟩
      · rw [external] at unowned'
        cases unowned'

namespace Store

/-- What a store becomes: a storage with a number that has been given out before is what it was then,
and only the storages with an adopted number have got an owner. -/
structure Later (adopted : StorageId → Prop) (s s' : Store) : Prop where
  next_le : s.storages.next ≤ s'.storages.next
  kept : ∀ id st', id < s.storages.next → s'.storages.get? id = some st' →
    ∃ st, s.storages.get? id = some st ∧ st.Kept st' ∧ (st'.release = st.release ∨ adopted id)

namespace Later

variable {adopted adopted' : StorageId → Prop} {s s' s'' : Store}

theorem refl (adopted : StorageId → Prop) (s : Store) : s.Later adopted s where
  next_le := le_rfl
  kept _ st' _ found := ⟨st', found, .refl st', .inl rfl⟩

theorem trans (first : s.Later adopted s') (second : s'.Later adopted s'') :
    s.Later adopted s'' where
  next_le := first.next_le.trans second.next_le
  kept id st'' lt found := by
    obtain ⟨st', found', kept', owner'⟩ := second.kept id st'' (lt.trans_le first.next_le) found
    obtain ⟨st, found, kept, owner⟩ := first.kept id st' lt found'
    refine ⟨st, found, kept.trans kept', ?_⟩
    rcases owner with same | adopted
    · rw [← same]
      exact owner'
    · exact .inr adopted

theorem mono (later : s.Later adopted s') (imp : ∀ id, adopted id → adopted' id) :
    s.Later adopted' s' where
  next_le := later.next_le
  kept id st' lt found := by
    obtain ⟨st, live, kept, owner⟩ := later.kept id st' lt found
    exact ⟨st, live, kept, owner.imp_right (imp id)⟩

end Later

/-! ## Adoptions -/

variable {s : Store} {h : Handle} {owner : Owner}

/-- A storage can be adopted if and only if it has one reference and nobody is told of it yet. -/
theorem isOk_adopt_iff {id : StorageId} :
    (s.adopt ⟨some id⟩ owner).isOk ↔
      ∃ st, s.storages.get? id = some st ∧ st.references = 1 ∧ st.release = .unowned := by
  constructor
  · intro isOk
    obtain ⟨s', ok⟩ := Client.exists_of_isOk isOk
    obtain ⟨i, st, hid, live, sole, unowned, -⟩ := adopt_eq_ok ok
    obtain rfl : id = i := by simpa using hid
    exact ⟨st, live, sole, unowned⟩
  · rintro ⟨st, live, sole, unowned⟩
    rw [adopt, resolve_of_live live]
    simp [sole, unowned, Except.isOk, Except.toBool]

/-- An adoption by name needs the name to be registered as well. -/
theorem isOk_adoptNamed_iff {deleters : Deleters} {name : String} {context : CallbackContext} :
    (s.adoptNamed deleters h name context).isOk ↔
      ∃ callback, deleters.get? name = some callback ∧
        (s.adopt h (.callback callback context)).isOk := by
  cases registered : deleters.get? name with
  | none => simp [adoptNamed, registered, Except.isOk, Except.toBool]
  | some callback => simp [adoptNamed, registered]

end Store

namespace Client

variable {c : Client} {t : Turn} {s s' : Store} {id : StorageId} {st : Storage} {owner : Owner}

/-! ## Later moments of a run -/

theorem Change.later (e : Change c t s s') :
    s.Later (fun id => ∃ m owner, t = .move m ∧ Pledge c m id (.released id owner)) s' where
  next_le := e.next_le.1
  kept id st' lt found := by
    rcases e.storage_cases found with old | ⟨hid, -⟩
    · exact old
    · exact absurd hid lt.ne

/-- One of the turns gives the storage to an owner, on a call that succeeds. -/
def Adopted (c : Client) (turns : List Turn) (id : StorageId) (owner : Owner) : Prop :=
  ∃ before m after, turns = before ++ .move m :: after ∧
    Pledge (c.play before) m id (.released id owner)

theorem later_turn (c : Client) (t : Turn) :
    c.store.Later (fun id => ∃ owner, c.Adopted [t] id owner) (c.turn t).store := by
  have later := (changes_turn c t).preserve (P := c.store.Later _)
    (fun _ _ e later => Store.Later.trans later e.later) (.refl _ _)
  refine later.mono ?_
  rintro id ⟨m, owner, rfl, pledge⟩
  exact ⟨owner, [], m, [], rfl, pledge⟩

theorem Adopted.append_left {before after : List Turn}
    (adopted : (c.play before).Adopted after id owner) : c.Adopted (before ++ after) id owner := by
  obtain ⟨first, m, last, rfl, pledge⟩ := adopted
  refine ⟨before ++ first, m, last, by rw [List.append_assoc], ?_⟩
  rwa [play_append]

theorem Adopted.append_right {before : List Turn} (adopted : c.Adopted before id owner)
    (after : List Turn) : c.Adopted (before ++ after) id owner := by
  obtain ⟨first, m, last, rfl, pledge⟩ := adopted
  exact ⟨first, m, last ++ after, by simp, pledge⟩

/-- **What the store has become after a list of turns.** -/
theorem later_play (c : Client) (turns : List Turn) :
    c.store.Later (fun id => ∃ owner, c.Adopted turns id owner) (c.play turns).store := by
  induction turns generalizing c with
  | nil => exact .refl _ _
  | cons t turns ih =>
    refine ((later_turn c t).mono ?_).trans ((ih (c.turn t)).mono ?_)
    · rintro id ⟨owner, adopted⟩
      exact ⟨owner, adopted.append_right turns⟩
    · rintro id ⟨owner, adopted⟩
      have rest : (c.play [t]).Adopted turns id owner := adopted
      exact ⟨owner, rest.append_left⟩

/-! ## Adoption -/

/-- The call takes the one reference that there is. -/
theorem Pledge.references_eq_one {m : Move} (pledge : Pledge c m id (.released id owner)) :
    c.store.references ⟨some id⟩ = 1 := by
  have sole {owner : Owner} (isOk : (c.store.adopt ⟨some id⟩ owner).isOk) :
      c.store.references ⟨some id⟩ = 1 := by
    obtain ⟨st, live, one, -⟩ := Store.isOk_adopt_iff.1 isOk
    rw [Store.references_of_get? live, one]
  cases pledge with
  | adopt _ isOk => exact sole isOk
  | adoptNamed _ _ isOk =>
    obtain ⟨callback, -, isOk⟩ := Store.isOk_adoptNamed_iff.1 isOk
    exact sole isOk

/-- After the call the memory is the owner's. -/
theorem Pledge.external {m : Move} (pledge : Pledge c m id (.released id owner)) :
    ∃ st, (c.step m).store.storages.get? id = some st ∧ st.release = .external owner := by
  obtain ⟨st, live, ⟨owner', external, notice⟩ | ⟨r, record, -, -, due⟩⟩ :=
    Store.due?_eq_some pledge.due
  · obtain rfl : owner = owner' := by simpa using notice
    exact ⟨st, live, external⟩
  · obtain ⟨producer, notice⟩ := Record.due?_eq_some due
    cases notice

/-- Once the memory is the owner's, it stays so. -/
theorem external_of_adopted {turns : List Turn} (adopted : c.Adopted turns id owner)
    (live : (c.play turns).store.storages.get? id = some st) : st.release = .external owner := by
  obtain ⟨before, m, after, rfl, pledge⟩ := adopted
  obtain ⟨bound, live', external⟩ := pledge.external
  rw [play_append, play_cons] at live
  obtain ⟨old, found, kept, -⟩ :=
    (later_play ((c.play before).step m) after).kept id st (Table.lt_next_of_get? live') live
  obtain rfl := Option.some.inj (live'.symm.trans found)
  rcases kept.release with same | ⟨unowned, -⟩
  · exact same.trans external
  · rw [external] at unowned
    cases unowned

/-- Memory that is an owner's is not adopted again. -/
theorem not_isOk_adopt_of_adopted {turns : List Turn} (adopted : c.Adopted turns id owner)
    (owner' : Owner) : ¬ ((c.play turns).store.adopt ⟨some id⟩ owner').isOk := by
  intro isOk
  obtain ⟨st, live, -, unowned⟩ := Store.isOk_adopt_iff.1 isOk
  rw [external_of_adopted adopted live] at unowned
  cases unowned

/-- **A storage is written once, and its memory is given away once.** As long as it is live, it keeps
its data pointer, its descriptor and its extent. Its release changes only from that of memory which
nobody is told about to that of an owner, in a call of the client that takes the one reference there
is. Such a call succeeds just in that case, and never again for the same storage. -/
theorem storage_written_once (before : List Turn) (id : StorageId) :
    let s := (play {} before).store
    (∀ after st st', s.storages.get? id = some st →
      (play {} (before ++ after)).store.storages.get? id = some st' →
        (∀ first rest, after = first ++ rest →
          ∃ between, (play {} (before ++ first)).store.storages.get? id = some between) ∧
        st'.data = st.data ∧ st'.descriptor = st.descriptor ∧ st'.extent = st.extent ∧
        (st'.release = st.release ∨
          st.release = .unowned ∧ ∃ owner, st'.release = .external owner ∧
            ∃ first m rest, after = first ++ .move m :: rest ∧
              (play {} (before ++ first)).store.references ⟨some id⟩ = 1 ∧
              Pledge (play {} (before ++ first)) m id (.released id owner))) ∧
      (∀ owner, (s.adopt ⟨some id⟩ owner).isOk ↔
        ∃ st, s.storages.get? id = some st ∧ st.references = 1 ∧ st.release = .unowned) ∧
      (∀ deleters name context, (s.adoptNamed deleters ⟨some id⟩ name context).isOk ↔
        (deleters.get? name).isSome ∧
          ∃ st, s.storages.get? id = some st ∧ st.references = 1 ∧ st.release = .unowned) ∧
      ∀ m owner, Pledge (play {} before) m id (.released id owner) → ∀ after,
        let s' := (play {} (before ++ .move m :: after)).store
        (∀ owner', ¬ (s'.adopt ⟨some id⟩ owner').isOk) ∧
          ∀ deleters name context, ¬ (s'.adoptNamed deleters ⟨some id⟩ name context).isOk := by
  intro s
  refine ⟨fun after st st' live live' => ?_, fun owner => Store.isOk_adopt_iff,
    fun deleters name context => ?_, fun m owner pledge after => ?_⟩
  · have bound := Table.lt_next_of_get? live
    refine ⟨fun first rest heq => ?_, ?_⟩
    · subst heq
      rw [← List.append_assoc, play_append] at live'
      have given : id < (play {} (before ++ first)).store.storages.next := by
        rw [play_append]
        exact bound.trans_le (later_play (play {} before) first).next_le
      obtain ⟨between, found, -⟩ := (later_play _ rest).kept id st' given live'
      exact ⟨between, found⟩
    · rw [play_append] at live'
      obtain ⟨old, found, kept, owner⟩ := (later_play (play {} before) after).kept id st' bound live'
      obtain rfl : st = old := Option.some.inj (live.symm.trans found)
      refine ⟨kept.data, kept.descriptor, kept.extent, ?_⟩
      rcases kept.release with same | ⟨unowned, taken⟩
      · exact .inl same
      · rcases owner with same | ⟨owner, adopted⟩
        · exact .inl same
        · have external := external_of_adopted adopted live'
          obtain ⟨first, m, rest, rfl, pledge⟩ := adopted
          rw [← play_append] at pledge
          exact .inr ⟨unowned, owner, external, first, m, rest, rfl, pledge.references_eq_one,
            pledge⟩
  · rw [Store.isOk_adoptNamed_iff, Option.isSome_iff_exists]
    constructor
    · rintro ⟨callback, registered, isOk⟩
      exact ⟨⟨callback, registered⟩, Store.isOk_adopt_iff.1 isOk⟩
    · rintro ⟨⟨callback, registered⟩, adoptable⟩
      exact ⟨callback, registered, Store.isOk_adopt_iff.2 adoptable⟩
  · have adopted : Adopted {} (before ++ .move m :: after) id owner :=
      ⟨before, m, after, rfl, pledge⟩
    refine ⟨not_isOk_adopt_of_adopted adopted, fun deleters name context isOk => ?_⟩
    obtain ⟨callback, -, isOk⟩ := Store.isOk_adoptNamed_iff.1 isOk
    exact not_isOk_adopt_of_adopted adopted _ isOk

/-- Shared memory is not given away, and memory that has been given away stays so while the tensor is
exported and the record loses its deleter. -/
theorem storage_written_once_shared :
    let d : Descriptor := ⟨⟨[1], [1]⟩, 0, .uint8, .cpu⟩
    let early : Turn := .move (.adopt ⟨some 0⟩ (.closure "early"))
    let m : Move := .adopt ⟨some 0⟩ (.closure "owner")
    let before : List Turn := [.move (.ofParts d ⟨4096, ⟨4096, 1⟩⟩), .move (.clone ⟨some 0⟩), early,
      .move (.drop ⟨some 0⟩)]
    let after : List Turn := [.move (.exportHandle ⟨some 0⟩), .strip 0 true true]
    ∃ st, (play {} (before ++ .move m :: after)).store.storages.get? 0 = some st ∧
      st.descriptor = d ∧ st.release = .external (.closure "owner") ∧
      ¬ ((play {} (before ++ .move m :: after)).store.adopt ⟨some 0⟩ (.closure "late")).isOk := by
  intro d early m before after
  have pledge : Pledge (play {} before) m 0 (.released 0 (.closure "owner")) :=
    .adopt (by decide +kernel) (by decide +kernel)
  obtain ⟨st, live⟩ := Option.isSome_iff_exists.1
    (by decide +kernel : ((play {} before).store.storages.get? 0).isSome)
  obtain ⟨st', live'⟩ := Option.isSome_iff_exists.1 (by decide +kernel :
    ((play {} (before ++ .move m :: after)).store.storages.get? 0).isSome)
  obtain ⟨written, -, -, once⟩ := storage_written_once before 0
  obtain ⟨-, -, descriptor, -, -⟩ := written (.move m :: after) st st' live live'
  have found : ((play {} before).store.storages.get? 0).map (·.descriptor) = some d := by
    decide +kernel
  rw [live] at found
  have adopted : Adopted {} (before ++ .move m :: after) 0 (.closure "owner") :=
    ⟨before, m, after, rfl, pledge⟩
  exact ⟨st', live', descriptor.trans (Option.some.inj found), external_of_adopted adopted live',
    (once m _ pledge after).1 _⟩

end Client

end SharedTensor
