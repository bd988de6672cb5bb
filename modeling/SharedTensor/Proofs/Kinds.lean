import SharedTensor.Device
import SharedTensor.ElementType

/-!
# Kinds and their codes, names and tags

Each kind of element or device has a code and a tag of its own, a kind of device also a name, and is found
again by them. What is found under one of them is therefore the kind that has it.
-/

namespace SharedTensor

/-- If every item is found under its own key, then what is found under a key has that key. -/
theorem find?_key_eq_some_iff {α β : Type} [DecidableEq β] {items : List α} {key : α → β}
    (own : ∀ a, (items.find? fun x => key x = key a) = some a) {b : β} {a : α} :
    (items.find? fun x => key x = b) = some a ↔ key a = b := by
  constructor
  · intro found
    simpa using List.find?_some found
  · rintro rfl
    exact own a

namespace ElementKind

theorem ofCode?_eq_some_iff {code : UInt8} {kind : ElementKind} :
    ofCode? code = some kind ↔ kind.code = code :=
  find?_key_eq_some_iff ofCode?_code

theorem ofTag?_eq_some_iff {tag : String} {kind : ElementKind} :
    ofTag? tag = some kind ↔ kind.tag = tag :=
  find?_key_eq_some_iff ofTag?_tag

end ElementKind

namespace DeviceKind

theorem ofCode?_eq_some_iff {code : Int32} {kind : DeviceKind} :
    ofCode? code = some kind ↔ kind.code = code :=
  find?_key_eq_some_iff ofCode?_code

theorem ofName?_eq_some_iff {name : List Char} {kind : DeviceKind} :
    ofName? name = some kind ↔ kind.name.toList = name :=
  find?_key_eq_some_iff ofName?_name

theorem ofTag?_eq_some_iff {tag : String} {kind : DeviceKind} :
    ofTag? tag = some kind ↔ kind.tag = tag :=
  find?_key_eq_some_iff ofTag?_tag

end DeviceKind

end SharedTensor
