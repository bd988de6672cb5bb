import SharedTensor.Proofs.Client.Preserve
import SharedTensor.Proofs.Import
import SharedTensor.Proofs.OfList
import SharedTensor.Proofs.View

/-!
# Views of a list

A tensor made from a list shows a fresh block that holds the elements of the list
(`Store.shows_ofList`), and so does every view of it that starts where it does, and every view of
such a view (`Store.ViewOf.shows`). So whatever shape and strides a view has, it reads what its
multi-indices address in the list, and it can be read unless one of them addresses nothing
(`Client.view_reads_what_it_addresses`).
-/

namespace SharedTensor

/-! ## Tensors over a list -/

namespace Store

variable {s s' s₀ : Store} {h h' h₀ : Handle} {t : Scalar} {data : List t.Value} {c : Config}
  {l : Layout}

/-- The handle is of a tensor of the given layout over a block that holds the elements. -/
def Shows (s : Store) (h : Handle) (t : Scalar) (data : List t.Value) (l : Layout) : Prop :=
  ∃ id st b, h = ⟨some id⟩ ∧ s.storages.get? id = some st ∧ st.descriptor.toLayout = l ∧
    st.Shows t b ∧ b.Fits t data.length ∧ s.host.memory.Holds t b.start data

/-- **A tensor made from a list holds its elements.** -/
theorem shows_ofList {shape : List Int64} (pos : 0 < s.host.frontier)
    (ok : s.ofList c t data shape = .ok (h, s')) : s'.Shows h t data (.rowMajor shape) := by
  obtain ⟨counted, block, host, fresh, size, rfl, rfl⟩ := freshBlock_of_ofList ok
  have fits := (fresh_of_freshBlock fresh pos).fits size
  have valid := Descriptor.validate_ofScalars (t := t) counted
  exact ⟨s.storages.next, _, block, rfl, get?_afterOfList s t data shape block host, rfl,
    ⟨valid, rfl, rfl, rfl, rfl, rfl⟩, fits, host.memory.holds_write t block.start data⟩

/-- A view that starts where its source does shows the same elements under its own layout. -/
theorem Shows.view {r : ViewRequest} (shown : s.Shows h t data l) (inPlace : r.data = none)
    (ok : s.view c h r = .ok (h', s')) :
    ∃ source : Descriptor, s'.Shows h' t data (r.layout source) := by
  obtain ⟨id, st, b, rfl, live, -, shows, fits, holds⟩ := shown
  obtain ⟨id', st', heq, live', valid, made⟩ := view_eq_ok ok
  obtain rfl : id = id' := by simpa using heq
  obtain rfl : st = st' := Option.some.inj (live.symm.trans live')
  cases made
  refine ⟨st.descriptor, _, _, b, rfl, get?_view live _ _, rfl,
    ⟨valid, ?_, shows.extent, ?_, shows.elementType, shows.device⟩, fits, holds⟩
  · rw [inPlace]
    exact shows.data
  · simp only [ViewRequest.descriptor, inPlace]
    exact shows.byteOffset

/-- The handle has been come by through views, each of the tensor before it and starting where that
one does. -/
inductive ViewOf (h₀ : Handle) (s₀ : Store) : Handle → Store → Prop
  | source : ViewOf h₀ s₀ h₀ s₀
  | view {h h' : Handle} {s s' : Store} {c : Config} {r : ViewRequest} (of : ViewOf h₀ s₀ h s)
      (inPlace : r.data = none) (ok : s.view c h r = .ok (h', s')) : ViewOf h₀ s₀ h' s'

/-- All views on the way show the same elements. -/
theorem ViewOf.shows (of : ViewOf h₀ s₀ h s) (shown : s₀.Shows h₀ t data l) :
    ∃ l, s.Shows h t data l := by
  induction of with
  | source => exact ⟨l, shown⟩
  | view _ inPlace ok ih =>
    obtain ⟨l, shown⟩ := ih
    obtain ⟨source, shown⟩ := shown.view inPlace ok
    exact ⟨_, shown⟩

end Store

namespace Client

/-- **A view reads what it addresses.** Whatever shape and strides are asked of a view of a list, or
of a view of such views, its elements can be read if and only if every multi-index has an offset
that is the number of an element of the list: there are no multi-indices, or the least offset is not
negative and the greatest is below the length. Then the elements read are those of the list at the
offsets of all multi-indices in row-major order. -/
theorem view_reads_what_it_addresses (moves : List Move) (c c' : Config) (t : Scalar)
    (data : List t.Value) (shape₀ shape strides : List Int64) (check : Option Bool)
    (h₀ h view : Handle) (s₀ s s' : Store)
    (made : (run {} moves).store.ofList c t data shape₀ = .ok (h₀, s₀))
    (of : Store.ViewOf h₀ s₀ h s)
    (viewed : s.view c' h { shape := some shape, strides := some strides, checkExtent := check } =
      .ok (view, s')) :
    ((∃ values, s'.gather t view = .ok values) ↔
      ∀ index ∈ Layout.indices shape,
        0 ≤ Layout.offset strides index ∧ Layout.offset strides index < data.length) ∧
      ∀ values, s'.gather t view = .ok values →
        values.map some =
          (Layout.indices shape).map fun index => data[(Layout.offset strides index).toNat]? := by
  obtain ⟨l, shown⟩ := of.shows (Store.shows_ofList (frontier_pos_run moves) made)
  obtain ⟨source, id, st, b, rfl, live, layout, shows, fits, holds⟩ := shown.view rfl viewed
  have read := Store.gather_iff live shows fits holds
  rw [layout] at read
  exact read

/-- A view whose rows overlap, of a view that cannot be read itself. -/
theorem view_reads_overlapping_rows :
    ∃ h₀ h view s₀ s s',
      (run {} []).store.ofList {} .uint8 [1, 2, 3] [3] = .ok (h₀, s₀) ∧
      s₀.view {} h₀ { strides := some [-1] } = .ok (h, s) ∧
      s.view {} h { shape := some [2, 2], strides := some [1, 1] } = .ok (view, s') ∧
      s'.gather .uint8 view = .ok [1, 2, 2, 3] := by
  have ok : ((run {} []).store.ofList {} .uint8 [1, 2, 3] [3] >>= fun first =>
      first.2.view {} first.1 { strides := some [-1] } >>= fun second =>
        second.2.view {} second.1 { shape := some [2, 2], strides := some [1, 1] }).isOk := by
    decide +kernel
  obtain ⟨⟨view, s'⟩, all⟩ := exists_of_isOk ok
  obtain ⟨⟨h₀, s₀⟩, made, rest⟩ := bind_eq_ok_iff.1 all
  obtain ⟨⟨h, s⟩, first, second⟩ := bind_eq_ok_iff.1 rest
  obtain ⟨readable, read⟩ := view_reads_what_it_addresses [] {} {} .uint8 [1, 2, 3] [3] [2, 2]
    [1, 1] none h₀ h view s₀ s s' made (.view .source rfl first) second
  obtain ⟨values, gathered⟩ := readable.2 (by decide)
  have same : values.map some = [1, 2, 2, 3].map some := (read values gathered).trans (by decide)
  have values_eq : values = [1, 2, 2, 3] :=
    List.map_injective_iff.2 (Option.some_injective _) same
  exact ⟨h₀, h, view, s₀, s, s', made, first, second, values_eq ▸ gathered⟩

end Client

end SharedTensor
