import SharedTensor.Proofs.Client.Extent
import SharedTensor.Proofs.Gather

/-!
# Reading in one run is exact

A row-major tensor is read in one run of contiguous bytes, without a walk. Both ways of reading it
make the same checks (`Store.mapError_readable`), so they are refused alike, and where they are not
they give the elements that a walk would give (`Client.compact_reads_agree`). All bytes of the run
lie in the extent (`Storage.Readable.run_mem_extent`), since those of each element do.
-/

namespace SharedTensor

/-- The bytes of a run of elements, from the first to the last, lie in the extent. -/
theorem Storage.Readable.run_mem_extent {st : Storage} {t : Scalar} (readable : st.Readable t)
    (compact : st.descriptor.isCompact) {i : Nat} (below : i < st.descriptor.count * t.size) :
    st.extent.start ≤ st.data.address.toNat + st.descriptor.byteOffset.toNat + i ∧
      st.data.address.toNat + st.descriptor.byteOffset.toNat + i < st.extent.stop := by
  -- the byte belongs to the element whose number is the quotient by the size
  have element : i / t.size < st.descriptor.count :=
    Nat.div_lt_of_lt_mul (Nat.mul_comm _ _ ▸ below)
  have mem : ((i / t.size : Nat) : Int) ∈ st.readOffsets := by
    rw [readOffsets, if_pos compact]
    exact List.mem_map.2 ⟨_, List.mem_range.2 element, rfl⟩
  obtain ⟨address, exact, -, start, stop, -⟩ := readable.exists_address mem
  have parts := Nat.div_add_mod i t.size
  have inside := Nat.mod_lt i t.size_pos
  have exact' : address =
      st.data.address.toNat + st.descriptor.byteOffset.toNat + t.size * (i / t.size) := by
    exact_mod_cast exact
  omega

namespace Store

/-- Whatever operation asks, a tensor is found readable or is refused for the same kind of reason. -/
theorem mapError_readable (s : Store) (t : Scalar) (h : Handle) (first second : String) :
    (s.readable t first h).mapError Fault.kind = (s.readable t second h).mapError Fault.kind := by
  unfold readable
  cases s.resolve h "storage" with
  | error f => rfl
  | ok found =>
    obtain ⟨id, st⟩ := found
    simp only
    -- both operations pass each check, or both fail at it
    split_ifs
    · rfl
    · rfl
    · rfl
    · cases st.extent.admit st.descriptor st.data <;> rfl
    · cases st.extent.admit st.descriptor st.data <;> rfl

/-- A row-major tensor is readable and read the same in both ways, or is refused in both ways. -/
theorem elements_gather_cases {s : Store} {t : Scalar} {id : StorageId} {st : Storage}
    (live : s.storages.get? id = some st) (compact : st.descriptor.isCompact) :
    (st.Readable t ∧
      s.elements t ⟨some id⟩ = .ok (s.host.memory.loadAt t.size (base st).toNat st.readOffsets) ∧
      s.gather t ⟨some id⟩ = .ok (s.host.memory.loadAt t.size (base st).toNat st.readOffsets)) ∨
      ∃ f g, s.elements t ⟨some id⟩ = .error f ∧ s.gather t ⟨some id⟩ = .error g ∧
        f.kind = g.kind := by
  have alike := s.mapError_readable t ⟨some id⟩ "as_slice" "to_vec"
  cases first : s.readable t "as_slice" ⟨some id⟩ with
  | ok st' =>
    obtain ⟨⟨id', same, live'⟩, readable⟩ := readable_eq_ok_iff.1 first
    obtain rfl : id = id' := by simpa using same
    obtain rfl : st = st' := Option.some.inj (live.symm.trans live')
    exact .inl ⟨readable, elements_of_readable live readable compact,
      gather_of_readable live readable⟩
  | error f =>
    cases second : s.readable t "to_vec" ⟨some id⟩ with
    | ok st' =>
      rw [first, second] at alike
      cases alike
    | error g =>
      rw [first, second] at alike
      exact .inr ⟨f, g, by rw [elements, first], by rw [gather, second], Except.error.inj alike⟩

end Store

namespace Client

/-- **A row-major tensor is read alike in one run and by walking.** Both ways give the same elements
or are refused with the same kind of fault. The elements are those that a walk in machine words comes
by, and the bytes of all of them, one after the other from the first, lie in the extent. In every
state that a client comes to, this is the range of the buffer at the root. -/
theorem compact_reads_agree (s : Store) (t : Scalar) (id : StorageId) (st : Storage)
    (live : s.storages.get? id = some st) (compact : st.descriptor.isCompact) :
    let d := st.descriptor
    (s.elements t ⟨some id⟩).mapError Fault.kind = (s.gather t ⟨some id⟩).mapError Fault.kind ∧
      (∀ values, s.elements t ⟨some id⟩ = .ok values →
        (∃ words, d.wordOffsets = some words ∧ words.map Int64.toInt = d.offsets ∧
          values = s.host.memory.loadAt t.size (Store.base st).toNat (words.map Int64.toInt)) ∧
        ∀ i < d.count * t.size,
          st.extent.start ≤ st.data.address.toNat + d.byteOffset.toNat + i ∧
            st.data.address.toNat + d.byteOffset.toNat + i < st.extent.stop) ∧
      ∀ moves root, s = (run {} moves).store → s.IsRootOf root id →
        ∃ buffer, s.storages.get? root = some buffer ∧ st.extent = buffer.range := by
  intro d
  have roots : ∀ moves root, s = (run {} moves).store → s.IsRootOf root id →
      ∃ buffer, s.storages.get? root = some buffer ∧ st.extent = buffer.range := by
    rintro moves root rfl isRoot
    exact extent_eq_range (balanced_run balanced_empty moves) (measured_run moves) live isRoot
  rcases Store.elements_gather_cases (t := t) live compact with
    ⟨readable, ran, walked⟩ | ⟨f, g, ran, walked, kind⟩
  · refine ⟨by rw [ran, walked], fun values ok => ⟨?_, fun i below => ?_⟩, roots⟩
    · obtain ⟨words, found, offsets⟩ := Option.map_eq_some_iff.1 readable.map_wordOffsets
      refine ⟨words, found, ?_, ?_⟩
      · rw [offsets, Storage.readOffsets_eq readable.countOf, Layout.offsets_eq readable.countOf]
      · rw [offsets]
        exact Except.ok.inj (ok.symm.trans ran)
    · exact readable.run_mem_extent compact below
  · refine ⟨?_, fun values ok => ?_, roots⟩
    · rw [ran, walked]
      exact congrArg Except.error kind
    · rw [ran] at ok
      cases ok

/-- A tensor taken in again from its own export, of two rows under a third dimension of one. -/
theorem compact_reads_agree_reimported :
    let moves : List Move := [.ofList .uint16 [1, 2, 3, 4, 5, 6] [2, 1, 3],
      .exportHandle ⟨some 0⟩, .importManaged 0]
    let s := (run {} moves).store
    ∃ st root buffer, s.storages.get? 1 = some st ∧ st.descriptor.isCompact ∧
      s.elements .uint16 ⟨some 1⟩ = .ok [1, 2, 3, 4, 5, 6] ∧
      s.gather .uint16 ⟨some 1⟩ = .ok [1, 2, 3, 4, 5, 6] ∧
      s.IsRootOf root 1 ∧ s.storages.get? root = some buffer ∧ st.extent = buffer.range ∧
      ∀ i < 12, buffer.range.start ≤ st.data.address.toNat + i ∧
        st.data.address.toNat + i < buffer.range.stop := by
  intro moves s
  obtain ⟨st, live⟩ := Option.isSome_iff_exists.1
    (by decide +kernel : (s.storages.get? 1).isSome)
  have found : (s.storages.get? 1).map (·.descriptor) =
      some ⟨.rowMajor [2, 1, 3], 0, .uint16, .cpu⟩ := by decide +kernel
  rw [live] at found
  have d : st.descriptor = ⟨.rowMajor [2, 1, 3], 0, .uint16, .cpu⟩ := Option.some.inj found
  have compact : st.descriptor.isCompact := by
    rw [d]
    decide
  have ran : s.elements .uint16 ⟨some 1⟩ = .ok [1, 2, 3, 4, 5, 6] := by decide +kernel
  obtain ⟨agree, read, roots⟩ := compact_reads_agree s .uint16 1 st live compact
  obtain ⟨root, isRoot⟩ := (descending_run moves).exists_root 1
  obtain ⟨buffer, hbuffer, range⟩ := roots moves root rfl isRoot
  have walked : s.gather .uint16 ⟨some 1⟩ = .ok [1, 2, 3, 4, 5, 6] := by
    rw [ran] at agree
    cases gathered : s.gather .uint16 ⟨some 1⟩ with
    | error f =>
      rw [gathered] at agree
      cases agree
    | ok values =>
      rw [gathered] at agree
      exact congrArg Except.ok (Except.ok.inj agree).symm
  refine ⟨st, root, buffer, live, compact, ran, walked, isRoot, hbuffer, range, fun i below => ?_⟩
  have inside := (read _ ran).2 i (by rw [d]; exact below)
  rw [d, range] at inside
  exact inside

end Client

end SharedTensor
