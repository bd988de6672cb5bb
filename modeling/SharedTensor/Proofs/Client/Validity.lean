import SharedTensor.Proofs.Client.Change
import SharedTensor.Proofs.Layout.Count

/-!
# Live storages have valid descriptors

Every constructor validates the descriptor of the storage that it makes, wherever the descriptor
comes from, and no small change touches the descriptor of a storage (`Change.valid`). So every live
storage has as many strides as dimensions, no dimension is negative, and the number of elements is
the exact product. A walk through the layout then stays at multi-indices of the shape
(`Layout.isIndex_visited`), one index for each dimension and each stride.
-/

namespace SharedTensor

namespace Layout

/-! ## The multi-indices of a walk -/

/-- The multi-index that a walk comes to after `k` moves. -/
def visited (shape : List Int64) (k : Nat) : List Int :=
  (fun index => (successor shape index).2)^[k] (shape.map fun _ => 0)

theorem walk_eq_map_iterate (l : Layout) (n : Nat) (index : List Int) :
    l.walk n index =
      (List.range n).map fun k =>
        offset l.strides ((fun index => (successor l.shape index).2)^[k] index) := by
  induction n generalizing index with
  | zero => rfl
  | succ n ih =>
    rw [walk, ih, List.range_succ_eq_map, List.map_cons, List.map_map]
    rfl

/-- Elements are at the offsets of the multi-indices that the walk comes to. -/
theorem offsets_eq_map_visited (l : Layout) :
    l.offsets = (List.range l.count).map fun k => offset l.strides (visited l.shape k) :=
  l.walk_eq_map_iterate l.count _

/-- As long as there are elements, the walk is at a multi-index of the shape. -/
theorem isIndex_visited {shape : List Int64} {n : Nat} (count : countOf shape = .ok n)
    (filled : n ≠ 0) (k : Nat) : IsIndex shape (visited shape k) := by
  have pos := one_le_of_countOf count filled
  induction k with
  | zero => exact isIndex_zero pos
  | succ k ih =>
    rw [visited, Function.iterate_succ_apply']
    exact ih.successor

end Layout

namespace Store

/-- Every storage has a valid descriptor. -/
def Valid (s : Store) : Prop :=
  ∀ id st, s.storages.get? id = some st → st.descriptor.validate = .ok ()

end Store

namespace Client

variable {c : Client} {t : Turn} {s s' : Store}

theorem Change.valid (e : Change c t s s') (v : s.Valid) : s'.Valid := by
  intro id st' found
  rcases e.storage_cases found with ⟨st, live, kept, -⟩ | ⟨-, made⟩
  · rw [kept.descriptor]
    exact v id st live
  · exact made.valid

theorem valid_play (turns : List Turn) : (play {} turns).store.Valid := by
  refine play_induction (fun c t s s' e v => e.valid v) (fun id st found => ?_) turns
  cases found

theorem valid_run (moves : List Move) : (run {} moves).store.Valid := by
  rw [← play_moves]
  exact valid_play _

/-- **Every live storage has a valid descriptor.** Whatever descriptors and records have come in, its
shape and strides agree in length, no dimension is negative, and its number of elements is the exact
product of the dimensions, which is a machine word. A walk through its elements is at each of them at
as many indices as there are dimensions and strides, each index within its dimension. -/
theorem live_descriptor_valid (turns : List Turn) (id : StorageId) (st : Storage)
    (live : (play {} turns).store.storages.get? id = some st) :
    let d := st.descriptor
    d.validate = .ok () ∧ d.shape.length = d.strides.length ∧ (∀ n ∈ d.shape, 0 ≤ n.toInt) ∧
      Layout.countOf d.shape = .ok d.count ∧ (d.count : Int) = (d.shape.map Int64.toInt).prod ∧
      d.count < wordCount ∧
      d.offsets = (List.range d.count).map
        (fun k => Layout.offset d.strides (Layout.visited d.shape k)) ∧
      ∀ k < d.count,
        (Layout.visited d.shape k).length = d.shape.length ∧
          (Layout.visited d.shape k).length = d.strides.length ∧
          Layout.IsIndex d.shape (Layout.visited d.shape k) := by
  intro d
  have valid : d.validate = .ok () := valid_play turns id st live
  obtain ⟨length, counted⟩ := Layout.countOf_of_validate valid
  obtain ⟨product, word, nonneg⟩ := Layout.countOf_eq_ok counted
  refine ⟨valid, length, nonneg, counted, product.trans (Layout.volume_eq_prod d.shape), word,
    d.offsets_eq_map_visited, fun k below => ?_⟩
  have index := Layout.isIndex_visited counted (Nat.ne_zero_of_lt below) k
  have dimensions : (Layout.visited d.shape k).length = d.shape.length := index.length_eq.symm
  exact ⟨dimensions, dimensions.trans length, index⟩

/-- Descriptors and records that are not valid are refused, and a stripped record that is comes in. -/
theorem live_descriptor_valid_produced :
    let shape (dims : List Int64) : Descriptor := ⟨⟨dims, [1]⟩, 0, .uint8, .cpu⟩
    let header (dims : List Int64) : Header :=
      ⟨⟨4096, ⟨4096, 6⟩⟩, ⟨1, 0⟩, 2, ⟨1, 8, 1⟩, some dims, none, 0⟩
    let turns : List Turn := [.move (.allocate (shape [2, 3])), .move (.allocate (shape [-1])),
      .move (.produce (header [-2, 3]) "torch" true), .move (.importRaw 0),
      .move (.produce (header [2, 3]) "torch" true), .strip 1 true false, .move (.importRaw 1)]
    ∃ st, (play {} turns).store.storages.get? 0 = some st ∧ st.descriptor.count = 6 ∧
      ∀ k < 6, (Layout.visited [2, 3] k).length = 2 := by
  intro shape header turns
  obtain ⟨st, live⟩ := Option.isSome_iff_exists.1
    (by decide +kernel : ((play {} turns).store.storages.get? 0).isSome)
  have found : ((play {} turns).store.storages.get? 0).map (·.descriptor.shape) = some [2, 3] := by
    decide +kernel
  rw [live] at found
  have dims : st.descriptor.shape = [2, 3] := Option.some.inj found
  obtain ⟨-, -, -, -, product, -, -, walk⟩ := live_descriptor_valid turns 0 st live
  rw [dims] at product walk
  have count : st.descriptor.count = 6 := by
    have six : (([2, 3] : List Int64).map Int64.toInt).prod = 6 := by decide
    rw [six] at product
    exact_mod_cast product
  rw [count] at walk
  exact ⟨st, live, count, fun k below => (walk k below).1⟩

end Client

end SharedTensor
