import SharedTensor.Slots
import SharedTensor.Store

/-!
# Adoption by outside owners

Memory of the caller's can be bound to an owner that is told when the memory is no longer in use.
That needs the only reference to a storage which does nothing yet on release.
-/

namespace SharedTensor

/-- Callbacks under the names by which owners ask for them. -/
abbrev Deleters := Slots Callback

/-- The callbacks that are known from the start. -/
def Deleters.builtin : Deleters :=
  Slots.set {} "libc.free" .hostFree

namespace Store

/-- Binds the storage behind a handle to an owner. -/
def adopt (s : Store) (h : Handle) (owner : Owner) : Except Fault Store :=
  match s.resolve h "storage_mut" with
  | .error f => .error f
  | .ok (id, st) =>
    if st.references ≠ 1 then .error (.shared st.references)
    else if st.release ≠ .unowned then .error (.notAdoptable st.release.kind)
    else
      .ok { s with
        storages := s.storages.update id fun st => { st with release := .external owner } }

/-- Binds the storage behind a handle to an owner whose callback has a name. The name is looked up
before anything else. -/
def adoptNamed (s : Store) (deleters : Deleters) (h : Handle) (name : String)
    (context : CallbackContext) : Except Fault Store :=
  match deleters.get? name with
  | none => .error (.unknownDeleter name)
  | some callback => s.adopt h (.callback callback context)

end Store

end SharedTensor
