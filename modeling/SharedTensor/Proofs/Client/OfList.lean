import SharedTensor.Proofs.Client.Preserve
import SharedTensor.Proofs.OfList

/-!
# Lists that are taken in

What a client gets for a list, in any state that it comes to (`Client.list_stored_exactly`): the
buffer is sized by the shape and filled from the list, and neither is longer than the other. The list
is read back as it was, and a list that does not fit its shape changes nothing.
-/

namespace SharedTensor

namespace Client

/-- **A list is stored exactly.** Whatever a client has done, and by whatever configuration, a list is
made into a tensor just if it has as many elements as the shape and the host grants a buffer for its
bytes. The buffer has just these bytes, written one after the other, and no byte outside of it is
changed; the pool is charged with all of them, and not at all if there are none. Both ways of reading
give the list back. A list of another length is refused for the shape, and the client stays what it
is. -/
theorem list_stored_exactly (turns : List Turn) (config : Config) (t : Scalar) (data : List t.Value)
    (shape : List Int64) :
    let c := play {} turns
    let s := c.store
    let size := data.length * t.size
    let bytes := data.flatMap (bytesOf t.size)
    ((∃ h s', s.ofList config t data shape = .ok (h, s')) ↔
      Layout.countOf shape = .ok data.length ∧ s.host.Grants config size) ∧
      (∀ h s', s.ofList config t data shape = .ok (h, s') →
        ∃ id st block, h = ⟨some id⟩ ∧ s'.storages.get? id = some st ∧
          st.descriptor = .ofScalars t shape ∧ st.data = .toStart block ∧
          st.release = .owned block ∧ block.size = size ∧ bytes.length = size ∧
          s'.host.memory.read block.start block.size = bytes ∧
          (∀ address, address < block.start ∨ block.start + block.size ≤ address →
            s'.host.memory.byte address = s.host.memory.byte address) ∧
          s'.host.pool = (if size = 0 then s.host.pool else s.host.pool.charge size) ∧
          s'.elements t h = .ok data ∧ s'.gather t h = .ok data) ∧
      (Layout.countOf shape ≠ .ok data.length →
        (∃ f, s.ofList config t data shape = .error f ∧ f.kind = .invalidShape) ∧
          c.step (.ofList t data shape) = c) := by
  intro c s size bytes
  have length : bytes.length = size := length_flatMap_const (length_bytesOf t.size) data
  refine ⟨Store.exists_ofList_iff, fun h s' ok => ?_, fun other => ⟨?_, ?_⟩⟩
  · obtain ⟨counted, block, host, fresh, sized, rfl, rfl⟩ := Store.freshBlock_of_ofList ok
    obtain ⟨-, a, -, allocated⟩ := Store.freshBlock_eq_ok_iff.1 fresh
    have fits := (Store.fresh_of_freshBlock fresh (frontier_pos_play turns)).fits sized
    have valid := Descriptor.validate_ofScalars (t := t) counted
    have live := Store.get?_afterOfList s t data shape block host
    refine ⟨_, _, block, rfl, live, rfl, rfl, rfl, sized, length, ?_, fun address outside => ?_, ?_,
      Store.reads_of_shows live ⟨valid, rfl, rfl, rfl, rfl, rfl⟩ fits
        (host.memory.holds_write t block.start data) rfl counted⟩
    · rw [sized.trans length.symm]
      exact host.memory.read_write block.start bytes
    · have outside' : address < block.start ∨ block.start + bytes.length ≤ address := by
        rwa [← sized.trans length.symm]
      exact (host.memory.byte_write_of_outside outside').trans
        (HostAllocator.byte_of_outside allocated outside)
    · have pool := HostAllocator.pool_eq_of_allocate allocated
      rwa [sized] at pool
  · exact Store.exists_refusal_of_ofList other
  · obtain ⟨f, refused, -⟩ := Store.exists_refusal_of_ofList (s := s) (c := c.config) other
    have permitted : c.permits (.ofList t data shape) := rfl
    rw [step_of_permits permitted, act, refused, settle]

/-- A column, in a store that holds another tensor; no elements at all, between dimensions whose product
is large; and an element too many. -/
theorem list_stored_exactly_column :
    let s := (play {} [.move (.empty [4] .uint8 .cpu)]).store
    (∃ h s', s.ofList {} .uint16 [1, 2, 3] [3, 1] = .ok (h, s') ∧
      s'.elements .uint16 h = .ok [1, 2, 3] ∧ s'.host.pool.allocated = 10) ∧
      (∃ h s', s.ofList {} .uint16 [] [0, 2 ^ 62, 2 ^ 62] = .ok (h, s') ∧
        s'.gather .uint16 h = .ok [] ∧ s'.host.pool = s.host.pool) ∧
      ∃ f, s.ofList {} .uint16 [1, 2, 3] [2] = .error f ∧ f.kind = .invalidShape := by
  intro s
  have exact := list_stored_exactly [.move (.empty [4] .uint8 .cpu)] {} .uint16
  have grants (size : Nat) (ok : ((⟨64⟩ : HostAllocator).allocate s.host size).isOk) :
      s.host.Grants {} size := by
    obtain ⟨granted, allocated⟩ := exists_of_isOk ok
    exact ⟨⟨64⟩, granted, rfl, allocated⟩
  refine ⟨?_, ?_, ?_⟩
  · obtain ⟨taken, stored, -⟩ := exact [1, 2, 3] [3, 1]
    obtain ⟨h, s', ok⟩ := taken.2 ⟨by decide +kernel, grants 6 (by decide +kernel)⟩
    obtain ⟨id, st, block, -, -, -, -, -, -, -, -, -, pool, read, -⟩ := stored h s' ok
    refine ⟨h, s', ok, read, ?_⟩
    rw [pool]
    decide +kernel
  · obtain ⟨taken, stored, -⟩ := exact [] [0, 2 ^ 62, 2 ^ 62]
    obtain ⟨h, s', ok⟩ := taken.2 ⟨by decide +kernel, grants 0 (by decide +kernel)⟩
    obtain ⟨id, st, block, -, -, -, -, -, -, -, -, -, pool, -, read⟩ := stored h s' ok
    exact ⟨h, s', ok, read, pool⟩
  · obtain ⟨-, -, refused⟩ := exact [1, 2, 3] [2]
    exact (refused (by decide +kernel)).1

end Client

end SharedTensor
