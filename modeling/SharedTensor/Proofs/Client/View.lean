import SharedTensor.Proofs.Client.Run
import SharedTensor.Proofs.View

/-!
# What a view comes to

A request for a view leaves four things open, and what is not given is taken from the source or from
the configuration. The request is granted or refused for one of three reasons, which exclude each
other: there is no source, the ranks differ, or it is the shape. A view that is granted is one new
storage and one more reference to the source, and nothing else changes (`Store.Viewed`). Both are
said of every handle that a client holds (`Client.view_exact`).
-/

namespace SharedTensor

namespace Store

variable {s s' : Store} {id : StorageId} {source : Storage} {h v : Handle} {c : Config}
  {r : ViewRequest}

/-- The store after a view: a new storage under a number that has never been used, one more reference
to the source, and nothing else. -/
structure Viewed (s s' : Store) (id : StorageId) (source made : Storage) : Prop where
  unused : s.storages.get? s.storages.next = none
  made : s'.storages.get? s.storages.next = some made
  source : s'.storages.get? id = some { source with references := source.references + 1 }
  others : ∀ i, i ≠ id → i ≠ s.storages.next → s'.storages.get? i = s.storages.get? i
  records : s'.records = s.records
  host : s'.host = s.host
  notices : s'.notices = s.notices
  counters : s'.counters = { s.counters with live := s.counters.live + 1 }

theorem next_retain (s : Store) (id : StorageId) : (s.retain id).storages.next = s.storages.next :=
  Table.next_update ..

/-- The new storage gets the next number, whichever storage is referred to. -/
theorem add_retain {d : Descriptor} {data : Pointer} {release : Release} :
    (s.retain id).add d data release =
      (⟨some s.storages.next⟩, ((s.retain id).add d data release).2) := by
  rw [← next_retain s id]
  rfl

theorem viewed (live : s.storages.get? id = some source) (d : Descriptor) (data : Pointer) :
    s.Viewed ((s.retain id).add d data (.view id)).2 id source
      ⟨data, d, source.extent, .view id, 1⟩ where
  unused := by
    rw [Table.get?_next]
  made := by
    rw [← next_retain s id]
    exact get?_view live d data
  source := by
    have old : id ≠ (s.retain id).storages.next := by
      rw [next_retain]
      exact (Table.lt_next_of_get? live).ne
    rw [get?_add, if_neg old, get?_retain_of_live live]
  others i other old := by
    rw [← next_retain s id] at old
    rw [get?_add, if_neg old, retain, Table.get?_update, if_neg other]
  records := rfl
  host := rfl
  notices := rfl
  counters := rfl

end Store

namespace Client

/-- **Views are exact.** Whatever is asked of a handle that a client holds, by whatever configuration,
the view is refused for want of a storage just if the handle is empty. Otherwise what is not asked
for is that of the source, the strides are row-major unless they are given, and only a view that
starts where the source does has its byte offset. The view is refused for the ranks just if they
differ, and else for the shape just if it has no number of elements, or the extent is to be checked
and some element strays from that of the source. In all other cases it is made, and it is one new
storage of just this description, with one reference, next to one more reference to the source. -/
theorem view_exact (moves : List Move) (h : Handle) (c : Config) (r : ViewRequest)
    (held : h ∈ (run {} moves).handles) :
    let s := (run {} moves).store
    (refusal? (s.view c h r) = some .nullStorage ↔ h.target = none) ∧
      ∀ id, h.target = some id → ∃ source, s.storages.get? id = some source ∧
        let parent := source.descriptor
        let shape := r.shape.getD parent.shape
        let strides := r.strides.getD (Layout.rowMajorStrides shape)
        let d : Descriptor := ⟨⟨shape, strides⟩, if r.data.isSome then 0 else parent.byteOffset,
          parent.elementType, parent.device⟩
        let data := r.data.getD source.data
        let outside := r.checkExtent.getD c.safety.checkViewExtent ∧ d.Strays data source.extent
        (refusal? (s.view c h r) = some .arityMismatch ↔ shape.length ≠ strides.length) ∧
        (refusal? (s.view c h r) = some .invalidShape ↔
          shape.length = strides.length ∧ ((∃ f, Layout.countOf shape = .error f) ∨ outside)) ∧
        (shape.length = strides.length → (∃ n, Layout.countOf shape = .ok n) → ¬ outside →
          ∃ s', s.view c h r = .ok (⟨some s.storages.next⟩, s') ∧
            s.Viewed s' id source ⟨data, d, source.extent, .view id, 1⟩) := by
  intro s
  obtain ⟨target⟩ := h
  cases target with
  | none =>
    have empty : refusal? (s.view c ⟨none⟩ r) = some .nullStorage := rfl
    refine ⟨iff_of_true empty rfl, fun id given => ?_⟩
    cases given
  | some id =>
    obtain ⟨source, live⟩ := (balanced_run balanced_empty moves).live_of_mem_handles held
    have result := Store.view_of_live (c := c) (r := r) live
    have refusal : refusal? (s.view c ⟨some id⟩ r) = refusal? (r.parts c source) := by
      rw [result, refusal?_map]
    rw [refusal]
    rcases r.parts_cases c source with ⟨differ, kind⟩ | ⟨agree, unfit, kind⟩ | ⟨valid, inside, made⟩
    · rw [kind]
      refine ⟨iff_of_false nofun nofun, fun i given => ?_⟩
      cases given
      exact ⟨source, live, iff_of_true rfl differ, iff_of_false nofun fun h => differ h.1,
        fun agree => absurd agree differ⟩
    · rw [kind]
      refine ⟨iff_of_false nofun nofun, fun i given => ?_⟩
      cases given
      refine ⟨source, live, iff_of_false nofun fun differ => differ agree,
        iff_of_true rfl ⟨agree, unfit⟩, fun _ counted inside => ?_⟩
      rcases unfit with ⟨f, uncounted⟩ | outside
      · obtain ⟨n, counted⟩ := counted
        cases uncounted.symm.trans counted
      · exact absurd outside inside
    · obtain ⟨agree, n, counted⟩ := Layout.validate_eq_ok_iff.1 valid
      rw [made] at result ⊢
      refine ⟨iff_of_false nofun nofun, fun i given => ?_⟩
      cases given
      refine ⟨source, live, iff_of_false nofun fun differ => differ agree,
        iff_of_false nofun fun h => ?_, fun _ _ _ => ⟨_, ?_, Store.viewed live _ _⟩⟩
      · rcases h.2 with ⟨f, uncounted⟩ | outside
        · cases uncounted.symm.trans counted
        · exact inside outside
      · exact result.trans (congrArg Except.ok Store.add_retain)

/-- Rows and columns exchanged, with the extent checked; a row too many; and a rank that the shape of
the source does not have. -/
theorem view_exact_transposed :
    let moves : List Move := [.ofList .uint8 [1, 2, 3, 4, 5, 6] [2, 3]]
    let s := (run {} moves).store
    let block : Block := ⟨70368744177664, 6⟩
    let d : Descriptor := ⟨⟨[3, 2], [1, 3]⟩, 0, .uint8, .cpu⟩
    ⟨some 0⟩ ∈ (run {} moves).handles ∧
      (∃ source s', s.view {} ⟨some 0⟩
          { shape := some [3, 2], strides := some [1, 3], checkExtent := some true } =
            .ok (⟨some 1⟩, s') ∧
        s.Viewed s' 0 source ⟨.toStart block, d, .ofBlock block, .view 0, 1⟩) ∧
      refusal? (s.view {} ⟨some 0⟩ { shape := some [3, 3], checkExtent := some true }) =
        some .invalidShape ∧
      refusal? (s.view {} ⟨some 0⟩ { strides := some [1] }) = some .arityMismatch := by
  intro moves s block d
  have held : ⟨some 0⟩ ∈ (run {} moves).handles := by decide +kernel
  have found : s.storages.get? 0 = some ⟨.toStart block, ⟨.rowMajor [2, 3], 0, .uint8, .cpu⟩,
      .ofBlock block, .owned block, 1⟩ := by decide +kernel
  have exact (r : ViewRequest) := view_exact moves ⟨some 0⟩ {} r held
  refine ⟨held, ?_, ?_, ?_⟩
  · obtain ⟨-, views⟩ := exact
      { shape := some [3, 2], strides := some [1, 3], checkExtent := some true }
    obtain ⟨source, live, -, -, made⟩ := views 0 rfl
    obtain rfl := Option.some.inj (live.symm.trans found)
    have inside : ¬ d.Strays (.toStart block) (.ofBlock block) :=
      (Extent.admit_eq_ok_iff (by decide +kernel)).1 (by decide +kernel)
    obtain ⟨s', ok, viewed⟩ := made rfl ⟨6, by decide +kernel⟩ fun outside => inside outside.2
    exact ⟨_, s', ok, viewed⟩
  · obtain ⟨-, views⟩ := exact { shape := some [3, 3], checkExtent := some true }
    obtain ⟨source, live, -, unfit, -⟩ := views 0 rfl
    obtain rfl := Option.some.inj (live.symm.trans found)
    have index : Layout.IsIndex [3, 3] [2, 2] := Layout.mem_indices.1 (by decide +kernel)
    refine unfit.2 ⟨rfl, .inr ⟨rfl, .extent ⟨_, index, rfl⟩ (.inr (by decide +kernel))⟩⟩
  · obtain ⟨-, views⟩ := exact { strides := some [1] }
    obtain ⟨source, live, differ, -⟩ := views 0 rfl
    obtain rfl := Option.some.inj (live.symm.trans found)
    exact differ.2 (by decide +kernel)

end Client

end SharedTensor
