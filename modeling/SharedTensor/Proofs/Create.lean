import SharedTensor.Proofs.Host

/-!
# Why a tensor is not created

A tensor over fresh memory is refused for its layout, for its device or for want of memory
(`Store.kind_of_freshBlock`), as long as the alignment that the configuration asks for is a power of
two. No other check stands between a descriptor and its memory, so the same holds of all three ways
to ask for such a tensor.
-/

namespace SharedTensor

variable {f : Fault}

/-- The kinds of the faults for which no tensor is created. -/
def creationKinds : List FaultKind :=
  [.arityMismatch, .invalidShape, .deviceError, .memoryError]

/-! ## Layouts -/

namespace Layout

theorem kind_of_countFrom {shape ds : List Int64} {acc : Nat}
    (refused : countFrom shape acc ds = .error f) : f.kind = .invalidShape := by
  induction ds generalizing acc with
  | nil => cases refused
  | cons d ds ih =>
    rw [countFrom] at refused
    split at refused
    · cases refused
      rfl
    · split at refused
      · exact ih refused
      · cases refused
        rfl

/-- A fault for which a layout is refused: the ranks differ, or it is the shape. -/
def Refuses (l : Layout) (f : Fault) : Prop :=
  l.shape.length ≠ l.strides.length ∧ f.kind = .arityMismatch ∨ f.kind = .invalidShape

variable {l : Layout}

theorem refuses_of_validate (refused : l.validate = .error f) : l.Refuses f := by
  unfold validate at refused
  split at refused
  · next differ =>
    cases refused
    exact .inl ⟨differ, rfl⟩
  · split at refused
    · next counted =>
      cases refused
      exact .inr (kind_of_countFrom counted)
    · cases refused

theorem refuses_of_span (refused : l.span = .error f) : l.Refuses f := by
  unfold span at refused
  split at refused
  · next differ =>
    cases refused
    exact .inl ⟨differ, rfl⟩
  · split at refused
    · next counted =>
      cases refused
      exact .inr (kind_of_countFrom counted)
    · cases refused
    · split at refused
      · cases refused
        exact .inr rfl
      · cases refused

theorem refuses_of_required (refused : l.required = .error f) : l.Refuses f := by
  unfold required at refused
  split at refused
  · next spanned =>
    cases refused
    exact refuses_of_span spanned
  · cases refused
  · split at refused
    · cases refused
      exact .inr rfl
    · cases refused

end Layout

namespace Descriptor

variable {d : Descriptor}

theorem refuses_of_requiredBytes (refused : d.requiredBytes = .error f) : d.Refuses f := by
  unfold requiredBytes at refused
  split at refused
  · next required =>
    cases refused
    exact Layout.refuses_of_required required
  · split at refused
    · cases refused
    · cases refused
      exact .inr rfl

/-- The size of a buffer is refused for the layout. -/
theorem refuses_of_bufferSize (refused : d.bufferSize = .error f) : d.Refuses f := by
  unfold bufferSize at refused
  split at refused
  · next validated =>
    cases refused
    exact Layout.refuses_of_validate validated
  · split at refused
    · next required =>
      cases refused
      exact refuses_of_requiredBytes required
    · split at refused
      · cases refused
      · cases refused
        exact .inr rfl

theorem refuses_of_contiguous {shape : List Int64} {t : ElementType} {device : Device}
    (refused : contiguous shape t device = .error f) : (Layout.rowMajor shape).Refuses f := by
  simp only [contiguous, make] at refused
  split at refused
  · next validated =>
    cases refused
    exact Layout.refuses_of_validate validated
  · cases refused

end Descriptor

/-! ## Allocators -/

/-- No allocator is made for a device out of reach of the host, or for an alignment that is no power
of two. -/
theorem HostAllocator.kind_of_make {device : Device} {alignment : Nat}
    (refused : make device alignment = .error f) :
    device.isHostAccessible = false ∧ f.kind = .deviceError ∨
      isPowerOfTwo alignment = false ∧ f.kind = .configurationError := by
  unfold make at refused
  split at refused
  · next reach =>
    cases refused
    exact .inl ⟨by simpa using reach, rfl⟩
  · split at refused
    · next power =>
      cases refused
      exact .inr ⟨by simpa using power, rfl⟩
    · cases refused

theorem HostAllocator.kind_of_allocate {a : HostAllocator} {h : Host} {size : Nat}
    (refused : a.allocate h size = .error f) : f.kind = .memoryError := by
  obtain ⟨-, ⟨-, rfl⟩ | ⟨-, -, rfl⟩⟩ := allocate_eq_error.1 refused <;> rfl

/-! ## Tensors -/

namespace Store

variable {s : Store} {c : Config} {d : Descriptor}

theorem mem_creationKinds {l : Layout} (h : l.Refuses f) : f.kind ∈ creationKinds := by
  rcases h with ⟨-, kind⟩ | kind <;> rw [kind] <;> decide

/-- **A fresh block is refused** for the layout, for the device, or for want of memory. -/
theorem kind_of_freshBlock (power : isPowerOfTwo c.storage.hostAlignment.toNat)
    (refused : s.freshBlock c d = .error f) : f.kind ∈ creationKinds := by
  unfold freshBlock at refused
  split at refused
  · next sized =>
    cases refused
    exact mem_creationKinds (Descriptor.refuses_of_bufferSize sized)
  · split at refused
    · next made =>
      cases refused
      rcases HostAllocator.kind_of_make made with ⟨-, kind⟩ | ⟨other, -⟩
      · rw [kind]
        decide
      · rw [power] at other
        cases other
    · rw [HostAllocator.kind_of_allocate refused]
      decide

theorem kind_of_allocate (power : isPowerOfTwo c.storage.hostAlignment.toNat)
    (refused : s.allocate c d = .error f) : f.kind ∈ creationKinds := by
  unfold allocate at refused
  split at refused
  · next fresh =>
    cases refused
    exact kind_of_freshBlock power fresh
  · cases refused

theorem kind_of_empty {shape : List Int64} {t : ElementType} {device : Device}
    (power : isPowerOfTwo c.storage.hostAlignment.toNat)
    (refused : s.empty c shape t device = .error f) : f.kind ∈ creationKinds := by
  unfold empty at refused
  split at refused
  · next described =>
    cases refused
    exact mem_creationKinds (Descriptor.refuses_of_contiguous described)
  · exact kind_of_allocate power refused

theorem kind_of_ofList {t : Scalar} {data : List t.Value} {shape : List Int64}
    (power : isPowerOfTwo c.storage.hostAlignment.toNat)
    (refused : s.ofList c t data shape = .error f) : f.kind ∈ creationKinds := by
  unfold ofList at refused
  split at refused
  · next described =>
    cases refused
    exact mem_creationKinds (Descriptor.refuses_of_contiguous described)
  · split at refused
    · cases refused
      change FaultKind.invalidShape ∈ creationKinds
      decide
    · split at refused
      · next fresh =>
        cases refused
        exact kind_of_freshBlock power fresh
      · cases refused

end Store

end SharedTensor
