import SharedTensor.Proofs.BufferSize
import SharedTensor.Proofs.Client.Export
import SharedTensor.Proofs.Client.Preserve
import SharedTensor.Proofs.Client.Validity

/-!
# Missing data

Data are missing where no bytes were asked for. As long as the check for missing data is on and
nobody writes to records or chooses data pointers of views, a storage with null data is over an empty
buffer (`Store.Grounded`): it has been made with no elements, or of elements without bytes, or it is a
view. A view may ask for elements that the empty buffer does not have, as views are not checked unless
asked to, and its export is then not taken in again. Everything else with null data has no elements,
or its elements have no bytes (`null_data_cases`).
-/

namespace SharedTensor

/-! ## Empty buffers -/

namespace Descriptor

variable {d : Descriptor} {data : Pointer}

theorem vouched_of_no_elements (valid : d.validate = .ok ()) (none : d.count = 0) :
    Extent.vouched d data = .empty := by
  rw [Extent.vouched, reach_of_no_elements valid none]

/-- An empty buffer has no room for elements that have bytes. -/
theorem count_eq_zero_of_admit (sized : d.elementType.size ≠ 0)
    (admitted : Extent.empty.admit d data = .ok ()) : d.count = 0 := by
  rcases Extent.admit_eq_ok admitted with nothing | ⟨reached, hreach, -, stop⟩
  · exact Layout.count_eq_zero_iff.2 (reach_eq_none nothing)
  · obtain ⟨-, -, hstart, hstop, -⟩ := reach_eq_some hreach
    have nonneg := Layout.highest_nonneg (d.shape.zip d.strides)
    have bytes : 0 < (Layout.highest (d.shape.zip d.strides) + 1) * (d.elementType.size : Int) :=
      mul_pos (by omega) (by omega)
    have nothing : reached.stop = 0 := Nat.le_zero.1 stop
    omega

/-- A buffer without bytes is for no elements, or for elements without bytes. -/
theorem count_or_size_eq_zero (h : d.bufferSize = .ok 0) :
    d.count = 0 ∨ d.elementType.size = 0 := by
  rcases bufferSize_cases h with ⟨none, -⟩ | ⟨-, high, -, -, -, -, size⟩
  · exact .inl none
  · have bytes := (Nat.add_eq_zero_iff.1 size.symm).2
    exact .inr ((Nat.mul_eq_zero.1 bytes).resolve_left high.succ_ne_zero)

end Descriptor

/-- A fresh block at the null address is the one without bytes. -/
theorem Store.eq_none_of_freshBlock {s : Store} {c : Config} {d : Descriptor} {block : Block}
    {host : Host} (ok : s.freshBlock c d = .ok (block, host)) (pos : 0 < s.host.frontier)
    (null : (Pointer.toStart block).isNull) : block = .none ∧ d.bufferSize = .ok 0 := by
  obtain ⟨size, ⟨empty, rfl, -⟩ | ⟨filled, -⟩⟩ := freshBlock_spec ok
  · exact ⟨rfl, size⟩
  · -- a block that has bytes does not lie at the null address
    have fresh := fresh_of_freshBlock ok pos
    have start := (Pointer.isNull_toStart_iff fresh.bound).1 null
    exact absurd start (fresh.start filled).ne'

/-! ## Storages with null data -/

/-- Null data are those of an empty buffer. The records of exports say what the storages are, so what
is taken in of them is over an empty buffer as well. -/
structure Store.Grounded (s : Store) : Prop where
  frontier : 0 < s.host.frontier
  exports : ∀ r record id, s.records.get? r = some record → record.exporter? = some id →
    ∃ st, s.IsExport id st record
  null : ∀ id st, s.storages.get? id = some st → st.data.isNull →
    st.extent = .empty ∧
      (st.descriptor.count = 0 ∨ st.descriptor.elementType.size = 0 ∨
        ∃ parent, st.release = .view parent)

namespace Client

/-- A move that leaves data pointers and records as the library makes them, and leaves the check for
missing data on. -/
def Move.isPlain : Move → Bool
  | .view _ request => request.data.isNone
  | .overwrite _ _ => false
  | .configure config => config.safety.checkNullData
  | _ => true

variable {c : Client} {m : Move} {s s' : Store} {st : Storage}

/-- A new storage with null data is over an empty buffer. -/
theorem Made.null (made : Made c (.move m) s st) (g : s.Grounded) (plain : m.isPlain)
    (check : c.config.safety.checkNullData) (null : st.data.isNull) :
    st.extent = .empty ∧
      (st.descriptor.count = 0 ∨ st.descriptor.elementType.size = 0 ∨
        ∃ parent, st.release = .view parent) := by
  cases made with
  | owned ok =>
    obtain ⟨rfl, size⟩ := Store.eq_none_of_freshBlock ok g.frontier null
    exact ⟨rfl, (Descriptor.count_or_size_eq_zero size).imp_right .inl⟩
  | @unowned d data valid filled =>
    have count : d.count = 0 := by
      by_contra some
      exact absurd check (by simp [filled null (Nat.pos_of_ne_zero some)])
    exact ⟨Descriptor.vouched_of_no_elements valid count, .inl count⟩
  | @view id source request asked live valid =>
    obtain rfl := Turn.move.inj asked
    have inPlace : request.data = none := Option.isNone_iff_eq_none.1 plain
    have empty : source.extent = .empty := by
      refine (g.null id source live ?_).1
      rw [Store.fresh, inPlace] at null
      exact null
    refine ⟨?_, .inr (.inr ⟨id, rfl⟩)⟩
    rw [Store.fresh, Store.extentFor, live, ← empty]
  | @foreign r record d found ok =>
    obtain ⟨-, filled⟩ := Store.descriptor_of_importable ok
    have count : d.count = 0 := by
      by_contra some
      exact absurd check (by simp [filled null (Nat.pos_of_ne_zero some)])
    refine ⟨?_, .inl count⟩
    have valid : d.validate = .ok () := Store.importable_eq_ok ok
    cases exporter : s.exporter? r with
    | none =>
      rw [Store.fresh, Store.extentFor, exporter]
      exact Descriptor.vouched_of_no_elements valid count
    | some source =>
      rw [Store.fresh, Store.extentFor, exporter]
      obtain ⟨id, exported, live⟩ := Option.bind_eq_some_iff.1 exporter
      obtain ⟨record', found', hexporter⟩ := Option.bind_eq_some_iff.1 exported
      obtain rfl := Option.some.inj (found.symm.trans found')
      obtain ⟨first, same⟩ := g.exports r record id found hexporter
      refine (g.null id source live ?_).1
      rw [(same.kept source live).data, ← same.data]
      exact null

/-- A plain move keeps data from going missing. -/
theorem Change.grounded (e : Change c (.move m) s s') (plain : m.isPlain)
    (check : c.config.safety.checkNullData) (g : s.Grounded) : s'.Grounded where
  frontier := e.frontier_pos g.frontier
  exports r record' id found exporter := by
    rcases e.record_cases found with ⟨record, old, rfl | ⟨header, asked, -⟩ | ⟨_, _, asked, -⟩⟩ |
      ⟨-, issued⟩
    · obtain ⟨st, same⟩ := g.exports r record' id old exporter
      exact ⟨st, e.isExport same⟩
    · obtain rfl := Turn.move.inj asked
      cases plain
    · cases asked
    · obtain ⟨st, same⟩ := issued.isExport exporter
      exact ⟨st, e.isExport same⟩
  null id st' found null := by
    rcases e.storage_cases found with ⟨st, live, kept, -⟩ | ⟨-, made⟩
    · rw [kept.data] at null
      obtain ⟨empty, reason⟩ := g.null id st live null
      rw [kept.extent, kept.descriptor]
      refine ⟨empty, reason.imp_right (Or.imp_right ?_)⟩
      rintro ⟨parent, view⟩
      rcases kept.release with same | ⟨unowned, -⟩
      · exact ⟨parent, same.trans view⟩
      · rw [view] at unowned
        cases unowned
    · exact made.null g plain check null

/-! ## The configuration -/

theorem config_settle (c : Client) (result : Except Fault (Handle × Store)) :
    (c.settle result).config = c.config := by
  cases result <;> rfl

theorem config_accept (c : Client) (result : Except Fault Store) :
    (c.accept result).config = c.config := by
  cases result <;> rfl

theorem config_keep (c : Client) (result : Except Fault (RecordId × Store)) :
    (c.keep result).config = c.config := by
  cases result <;> rfl

theorem config_importRecord (c : Client) (r : RecordId) : (c.importRecord r).config = c.config := by
  unfold importRecord
  split <;> rfl

/-- The check for missing data stays on. -/
theorem checkNullData_step (plain : m.isPlain) (check : c.config.safety.checkNullData) :
    (c.step m).config.safety.checkNullData := by
  unfold step
  split
  case isFalse => exact check
  case isTrue =>
    cases m with
    | configure config => exact plain
    | allocate | empty | ofList | ofParts | view => rwa [act, config_settle]
    | adopt | adoptNamed => rwa [act, config_accept]
    | exportHandle => rwa [act, config_keep]
    | importManaged | importRaw => rwa [act, config_importRecord]
    | place size alignment =>
      rw [act]
      split <;> exact check
    | _ => exact check

/-! ## Runs -/

theorem grounded_run {moves : List Move} (plain : ∀ m ∈ moves, m.isPlain) (g : c.store.Grounded)
    (check : c.config.safety.checkNullData) : (c.run moves).store.Grounded := by
  induction moves generalizing c with
  | nil => exact g
  | cons m moves ih =>
    have now : m.isPlain := plain m List.mem_cons_self
    have grounded : (c.step m).store.Grounded :=
      (changes_step c m).preserve (fun _ _ e => e.grounded now check) g
    exact ih (fun m' mem => plain m' (List.mem_cons_of_mem m mem)) grounded
      (checkNullData_step now check)

theorem grounded_empty : ({} : Client).store.Grounded where
  frontier := by decide
  exports r record id found := by cases found
  null id st found := by cases found

/-- **Null data only for no elements**, for elements without bytes, or for a view that reaches outside
its buffer. In every state that the client comes to with the check for missing data on, without
overwriting records and without choosing data pointers of views, every live storage with null data
whose elements have bytes has no elements, or it is a view of more than its buffer holds. So an export
of any storage that has a lane can be taken in again at any time, unless the data are null and the
elements have no bytes or lie outside the buffer. -/
theorem null_data_cases (moves : List Move) (plain : ∀ m ∈ moves, m.isPlain) :
    let s := (run {} moves).store
    (∀ id st, s.storages.get? id = some st → st.data.isNull →
      st.descriptor.elementType.size ≠ 0 →
        st.descriptor.count = 0 ∨
          (∃ parent, st.release = .view parent) ∧
            st.extent.admit st.descriptor st.data ≠ .ok ()) ∧
      ∀ r id st, s.exportedFrom? r = some id → s.storages.get? id = some st →
        1 ≤ st.descriptor.elementType.lanes →
        (st.data.isNull → st.descriptor.elementType.size ≠ 0 ∧
          st.extent.admit st.descriptor st.data = .ok ()) →
        ∀ config, ∃ h s', s.importRecord config r = (.ok h, s') := by
  intro s
  have g : s.Grounded := grounded_run plain grounded_empty (by decide)
  refine ⟨fun id st live null sized => ?_, fun r id st exported live lanes inside config => ?_⟩
  · obtain ⟨empty, reason⟩ := g.null id st live null
    by_cases count : st.descriptor.count = 0
    · exact .inl count
    · refine .inr ⟨(reason.resolve_left count).resolve_left sized, fun admitted => ?_⟩
      rw [empty] at admitted
      exact count (Descriptor.count_eq_zero_of_admit sized admitted)
  · obtain ⟨record, found, exporter⟩ := Option.bind_eq_some_iff.1 exported
    obtain ⟨first, same⟩ := g.exports r record id found exporter
    have kept := same.kept st live
    have valid : first.descriptor.validate = .ok () := kept.descriptor ▸ valid_run moves id st live
    have lanes' : first.descriptor.elementType.lanes ≠ 0 := by
      intro none
      rw [kept.descriptor, none] at lanes
      exact absurd lanes (by decide)
    have filled : first.data.isNull → 0 < first.descriptor.count →
        config.safety.checkNullData = false := by
      rw [← kept.data, ← kept.descriptor]
      intro null some
      obtain ⟨sized, admitted⟩ := inside null
      rw [(g.null id st live null).1] at admitted
      exact absurd (Descriptor.count_eq_zero_of_admit sized admitted) some.ne'
    exact ⟨_, _, Store.importRecord_of_ok found (same.importable_eq_ok valid lanes' filled)⟩

/-- The export of a tensor without elements, viewed as another one without elements, is taken in
again. -/
theorem null_data_cases_no_elements :
    let moves : List Move := [.empty [0] .float32 .cpu, .view ⟨some 0⟩ { shape := some [0, 3] },
      .exportHandle ⟨some 1⟩]
    ∃ st h s', (run {} moves).store.storages.get? 1 = some st ∧ st.data.isNull ∧
      st.descriptor.count = 0 ∧ (run {} moves).store.importRecord {} 0 = (.ok h, s') := by
  intro moves
  obtain ⟨st, live⟩ := Option.isSome_iff_exists.1
    (by decide +kernel : ((run {} moves).store.storages.get? 1).isSome)
  have found : ((run {} moves).store.storages.get? 1).map (fun st => (st.data.isNull,
      st.descriptor.elementType, st.extent.admit st.descriptor st.data)) =
        some (true, .float32, .ok ()) := by decide +kernel
  rw [live, Option.map_some, Option.some.injEq, Prod.mk.injEq, Prod.mk.injEq] at found
  obtain ⟨null, float, admitted⟩ := found
  obtain ⟨count, exports⟩ := null_data_cases moves (by decide)
  have sized : st.descriptor.elementType.size ≠ 0 := by rw [float]; decide
  obtain ⟨h, s', taken⟩ := exports 0 1 st (by decide +kernel) live (by rw [float]; decide)
    (fun _ => ⟨sized, admitted⟩) {}
  rcases count 1 st live null sized with none | ⟨-, refused⟩
  · exact ⟨st, h, s', live, null, none, taken⟩
  · exact absurd admitted refused

/-- A view asks for elements of an empty buffer, and elements without bytes need no buffer: there are
elements over null data, and what is exported of them is not taken in again. -/
theorem null_data_with_elements :
    let view : List Move := [.empty [0] .float32 .cpu, .view ⟨some 0⟩ { shape := some [4] },
      .exportHandle ⟨some 1⟩]
    let bare : List Move := [.empty [4] ⟨.float, 0, 1⟩ .cpu, .exportHandle ⟨some 0⟩]
    (∀ m ∈ view ++ bare, m.isPlain) ∧
      ((run {} view).store.storages.get? 1).map
        (fun st => (st.data.isNull, st.descriptor.count)) = some (true, 4) ∧
      ((run {} view).store.importRecord {} 0).1 =
        .error (.nullRecordData [4]) ∧
      ((run {} bare).store.storages.get? 0).map
        (fun st => (st.data.isNull, st.descriptor.count)) = some (true, 4) ∧
      ((run {} bare).store.importRecord {} 0).1 =
        .error (.nullRecordData [4]) := by
  decide +kernel

end Client

end SharedTensor
