import SharedTensor.Fault

/-!
# Reading devices

A device is read from its text form, the name of a kind and an optional index after a colon, or from
the two numbers of an interchange record.
-/

namespace SharedTensor.Device

/-- The index that stands after the first colon of a text, which is zero without a colon. -/
def indexPart? (cs : List Char) : Option Int32 :=
  match cs.dropWhile (· ≠ ':') with
  | [] => some 0
  | _ :: index => Decimal.signedWord? index

/-- The device with the given text form. -/
def ofText (text : String) : Except Fault Device :=
  match indexPart? text.toList with
  | none => .error (.deviceRefused text "device index is not an integer")
  | some index =>
    match DeviceKind.ofName? (text.toList.takeWhile (· ≠ ':')) with
    | none => .error (.deviceRefused text "unknown device kind")
    | some kind => .ok ⟨kind, index⟩

/-- The kind with the given code. -/
def kindOfCode (code : Int32) : Except Fault DeviceKind :=
  match DeviceKind.ofCode? code with
  | some k => .ok k
  | none => .error (.unknownDeviceCode code)

end SharedTensor.Device
