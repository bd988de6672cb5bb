import SharedTensor.Proofs.Client.Storage
import SharedTensor.Proofs.Export
import SharedTensor.Proofs.Reach

/-!
# Views of the same buffer

What a view with explicit shape and strides is made of depends on its source only through the data
pointer, the extent, the byte offset, the element type and the device (`ViewRequest.parts_congr`). So
two tensors that agree in these (`Storage.Alike`), whatever their own layouts are, have the same views
(`Store.view_congr`), and the same can be read of them (`Store.elements_congr`,
`Store.gather_congr`).
-/

namespace SharedTensor

namespace Storage

/-- The same buffer from the same place on. Layouts may differ, and so may counts and releases. -/
structure Alike (st st' : Storage) : Prop where
  data : st'.data = st.data
  extent : st'.extent = st.extent
  byteOffset : st'.descriptor.byteOffset = st.descriptor.byteOffset
  elementType : st'.descriptor.elementType = st.descriptor.elementType
  device : st'.descriptor.device = st.descriptor.device

/-- The same tensor, up to its count and its release. -/
structure Same (st st' : Storage) : Prop where
  data : st'.data = st.data
  extent : st'.extent = st.extent
  descriptor : st'.descriptor = st.descriptor

variable {st st' st'' : Storage}

theorem Alike.refl (st : Storage) : st.Alike st := ⟨rfl, rfl, rfl, rfl, rfl⟩

theorem Alike.symm (alike : st.Alike st') : st'.Alike st where
  data := alike.data.symm
  extent := alike.extent.symm
  byteOffset := alike.byteOffset.symm
  elementType := alike.elementType.symm
  device := alike.device.symm

theorem Alike.trans (first : st.Alike st') (second : st'.Alike st'') : st.Alike st'' where
  data := second.data.trans first.data
  extent := second.extent.trans first.extent
  byteOffset := second.byteOffset.trans first.byteOffset
  elementType := second.elementType.trans first.elementType
  device := second.device.trans first.device

theorem Same.alike (same : st.Same st') : st.Alike st' where
  data := same.data
  extent := same.extent
  byteOffset := by rw [same.descriptor]
  elementType := by rw [same.descriptor]
  device := by rw [same.descriptor]

theorem Kept.same (kept : st.Kept st') : st.Same st' := ⟨kept.data, kept.extent, kept.descriptor⟩

end Storage

/-- The kind of fault for which something is refused, if it is. -/
def refusal? {α : Type} : Except Fault α → Option FaultKind
  | .error f => some f.kind
  | .ok _ => none

theorem refusal?_map {α β : Type} (result : Except Fault α) (f : α → β) :
    refusal? (result.map f) = refusal? result := by
  cases result <;> rfl

/-! ## What a view is made of -/

namespace ViewRequest

variable {r : ViewRequest} {c : Config} {source source' : Storage}

/-- The descriptor and the data pointer of a view, once it has been checked. -/
def parts (r : ViewRequest) (c : Config) (source : Storage) : Except Fault (Descriptor × Pointer) :=
  match r.disagreement with
  | some (shape, strides) => .error (.arityMismatch shape strides)
  | none =>
    let d := r.descriptor source.descriptor
    let data := r.data.getD source.data
    match d.validate with
    | .error f => .error f
    | .ok () =>
      let admitted :=
        if r.checkExtent.getD c.safety.checkViewExtent then source.extent.admit d data else .ok ()
      match admitted with
      | .error f => .error f
      | .ok () => .ok (d, data)

/-- A view with a shape and strides of its own takes the rest from its source. -/
theorem descriptor_congr {shape strides : List Int64} (hshape : r.shape = some shape)
    (hstrides : r.strides = some strides) (alike : source.Alike source') :
    r.descriptor source'.descriptor = r.descriptor source.descriptor := by
  simp only [descriptor, layout, hshape, hstrides, Option.getD_some, alike.byteOffset,
    alike.elementType, alike.device]

theorem parts_congr {shape strides : List Int64} (hshape : r.shape = some shape)
    (hstrides : r.strides = some strides) (alike : source.Alike source') :
    r.parts c source' = r.parts c source := by
  simp only [parts, descriptor_congr hshape hstrides alike, alike.data, alike.extent]

/-- Ranks that are asked for and differ are refused as they would be by the validation of the
layout. -/
theorem validate_of_disagreement {shape strides : Nat} (differ : r.disagreement = some (shape, strides))
    (source : Descriptor) :
    (r.descriptor source).validate = .error (.arityMismatch shape strides) := by
  unfold disagreement at differ
  split at differ
  · next asked asked' hshape hstrides =>
    split at differ
    · next lengths =>
      obtain ⟨rfl, rfl⟩ := Prod.mk.inj (Option.some.inj differ)
      have layout : (r.descriptor source).toLayout = ⟨asked, asked'⟩ := by
        simp only [descriptor, ViewRequest.layout, hshape, hstrides, Option.getD_some]
      rw [layout, Layout.validate, if_pos lengths]
    · cases differ
  · cases differ

/-- So a view is refused for its layout or for its extent, in this order. -/
theorem parts_eq (r : ViewRequest) (c : Config) (source : Storage) :
    r.parts c source =
      match (r.descriptor source.descriptor).validate with
      | .error f => .error f
      | .ok () =>
        match (if r.checkExtent.getD c.safety.checkViewExtent then
            source.extent.admit (r.descriptor source.descriptor) (r.data.getD source.data)
          else .ok ()) with
        | .error f => .error f
        | .ok () => .ok (r.descriptor source.descriptor, r.data.getD source.data) := by
  unfold parts
  split
  · next shape strides differ => rw [validate_of_disagreement differ]
  · rfl

/-- **What becomes of a request.** It is refused for the ranks, or for the shape if there is no number
of elements or the extent is checked and an element strays from it; otherwise it is granted. -/
theorem parts_cases (r : ViewRequest) (c : Config) (source : Storage) :
    let d := r.descriptor source.descriptor
    let data := r.data.getD source.data
    let outside := r.checkExtent.getD c.safety.checkViewExtent ∧ d.Strays data source.extent
    (d.shape.length ≠ d.strides.length ∧ refusal? (r.parts c source) = some .arityMismatch) ∨
      (d.shape.length = d.strides.length ∧ ((∃ f, Layout.countOf d.shape = .error f) ∨ outside) ∧
        refusal? (r.parts c source) = some .invalidShape) ∨
      d.validate = .ok () ∧ ¬ outside ∧ r.parts c source = .ok (d, data) := by
  intro d data outside
  rw [parts_eq]
  by_cases agree : d.shape.length = d.strides.length
  · refine .inr ?_
    cases validated : d.validate with
    | error f =>
      have kind := (Layout.refuses_of_validate validated).resolve_left fun h => h.1 agree
      refine .inl ⟨agree, .inl ?_, congrArg some kind⟩
      rw [Layout.validate, if_neg (not_not.2 agree)] at validated
      cases counted : Layout.countOf d.shape with
      | error g => exact ⟨g, rfl⟩
      | ok n =>
        rw [counted] at validated
        cases validated
    | ok =>
      by_cases check : r.checkExtent.getD c.safety.checkViewExtent
      · rw [if_pos check]
        cases admitted : source.extent.admit d data with
        | error f =>
          have strays : d.Strays data source.extent := by
            by_contra inside
            rw [(Extent.admit_eq_ok_iff validated).2 inside] at admitted
            cases admitted
          have kind := Extent.kind_of_admit validated admitted
          exact .inl ⟨agree, .inr ⟨check, strays⟩, congrArg some kind⟩
        | ok =>
          refine .inr ⟨rfl, fun h => ?_, rfl⟩
          exact (Extent.admit_eq_ok_iff validated).1 admitted h.2
      · rw [if_neg check]
        exact .inr ⟨rfl, fun h => check h.1, rfl⟩
  · have validated : d.validate = .error (.arityMismatch d.shape.length d.strides.length) :=
      if_pos agree
    rw [validated]
    exact .inl ⟨agree, rfl⟩

end ViewRequest

namespace Store

variable {s s' : Store} {id id' : StorageId} {source source' st st' : Storage} {c : Config}
  {r : ViewRequest}

theorem view_of_live (live : s.storages.get? id = some source) :
    s.view c ⟨some id⟩ r =
      (r.parts c source).map fun made => (s.retain id).add made.1 made.2 (.view id) := by
  rw [view, resolve_of_live live, ViewRequest.parts]
  cases r.disagreement with
  | some lengths => rfl
  | none =>
    simp only
    cases (r.descriptor source.descriptor).validate with
    | error f => rfl
    | ok =>
      simp only
      cases (if r.checkExtent.getD c.safety.checkViewExtent then
        source.extent.admit (r.descriptor source.descriptor) (r.data.getD source.data)
        else .ok ()) <;> rfl

/-- The extent of a view is that of its source. -/
theorem get?_view (live : s.storages.get? id = some source) (d : Descriptor) (data : Pointer) :
    ((s.retain id).add d data (.view id)).2.storages.get? (s.retain id).storages.next =
      some {
        data
        descriptor := d
        extent := source.extent
        release := .view id
        references := 1 } := by
  rw [get?_add, if_pos rfl, fresh, extentFor, get?_retain_of_live live]

/-- **Alike tensors have the same views** of any shape and strides: they are refused with the same
fault, and what is made is the same tensor. -/
theorem view_congr {shape strides : List Int64} (hshape : r.shape = some shape)
    (hstrides : r.strides = some strides) (live : s.storages.get? id = some source)
    (live' : s.storages.get? id' = some source') (alike : source.Alike source') :
    (∀ f, s.view c ⟨some id⟩ r = .error f ↔ s.view c ⟨some id'⟩ r = .error f) ∧
      ∀ h h' s₁ s₁', s.view c ⟨some id⟩ r = .ok (h, s₁) → s.view c ⟨some id'⟩ r = .ok (h', s₁') →
        ∃ i i' st st', h = ⟨some i⟩ ∧ s₁.storages.get? i = some st ∧
          h' = ⟨some i'⟩ ∧ s₁'.storages.get? i' = some st' ∧ st.Same st' ∧ s₁'.host = s₁.host := by
  rw [view_of_live live, view_of_live live', ViewRequest.parts_congr hshape hstrides alike]
  cases r.parts c source with
  | error f =>
    refine ⟨fun _ => Iff.rfl, fun h h' s₁ s₁' made => ?_⟩
    cases made
  | ok made =>
    obtain ⟨d, data⟩ := made
    refine ⟨fun f => ⟨nofun, nofun⟩, fun h h' s₁ s₁' made made' => ?_⟩
    cases made
    cases made'
    exact ⟨_, _, _, _, rfl, get?_view live d data, rfl, get?_view live' d data,
      ⟨rfl, alike.extent, rfl⟩, rfl⟩

/-! ## What is read -/

theorem readable_congr (live : s.storages.get? id = some st) (live' : s'.storages.get? id' = some st')
    (same : st.Same st') (t : Scalar) (operation : String) :
    (∃ f, s.readable t operation ⟨some id⟩ = .error f ∧
      s'.readable t operation ⟨some id'⟩ = .error f) ∨
      s.readable t operation ⟨some id⟩ = .ok st ∧ s'.readable t operation ⟨some id'⟩ = .ok st' := by
  unfold readable base
  rw [resolve_of_live live, resolve_of_live live']
  simp only [same.data, same.extent, same.descriptor]
  -- both pass each check, or both fail at it
  split_ifs
  · exact .inl ⟨_, rfl, rfl⟩
  · exact .inl ⟨_, rfl, rfl⟩
  · exact .inl ⟨_, rfl, rfl⟩
  · cases st.extent.admit st.descriptor st.data with
    | error f => exact .inl ⟨f, rfl, rfl⟩
    | ok _ => exact .inl ⟨_, rfl, rfl⟩
  · cases st.extent.admit st.descriptor st.data with
    | error f => exact .inl ⟨f, rfl, rfl⟩
    | ok _ => exact .inr ⟨rfl, rfl⟩

/-- The same tensor over the same memory has the same elements, and they are refused alike. -/
theorem elements_congr (live : s.storages.get? id = some st)
    (live' : s'.storages.get? id' = some st') (same : st.Same st')
    (memory : s'.host.memory = s.host.memory) (t : Scalar) :
    s'.elements t ⟨some id'⟩ = s.elements t ⟨some id⟩ := by
  unfold elements
  rcases readable_congr live live' same t "as_slice" with ⟨f, first, second⟩ | ⟨first, second⟩
  · rw [first, second]
  · rw [first, second]
    simp only [base, same.data, same.descriptor, memory]

theorem gather_congr (live : s.storages.get? id = some st)
    (live' : s'.storages.get? id' = some st') (same : st.Same st')
    (memory : s'.host.memory = s.host.memory) (t : Scalar) :
    s'.gather t ⟨some id'⟩ = s.gather t ⟨some id⟩ := by
  unfold gather
  rcases readable_congr live live' same t "to_vec" with ⟨f, first, second⟩ | ⟨first, second⟩
  · rw [first, second]
  · rw [first, second, elements_congr live live' same memory]
    simp only [base, same.data, same.descriptor, memory]

end Store

end SharedTensor
