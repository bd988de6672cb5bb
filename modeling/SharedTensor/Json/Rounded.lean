import SharedTensor.Json

/-!
# JSON values with the numbers of a machine

What becomes of a JSON value that is kept in memory: integers that fit in a signed or unsigned word
stay as they are, and all other numbers become floats.
-/

namespace SharedTensor.Json

/-- The float that a numeral denotes. A numeral that is too large for a float stays as it is. -/
def ofScientific (x : Scientific) : Json :=
  match x.toFloat? with
  | some f => .real (.ofFloat f)
  | none => .real x

/-- Does an integer fit in a signed or unsigned word? -/
def isWord (i : Int) : Bool :=
  Int64.minValue.toInt ≤ i && i < UInt64.size

mutual

/-- The value with all its numbers as words or floats. -/
def rounded : Json → Json
  | .integer i => if isWord i then .integer i else ofScientific (.ofInt i)
  | .real x => ofScientific x
  | .array elements => .array (roundedElements elements)
  | .object members => .object (roundedMembers members)
  | .null => .null
  | .bool b => .bool b
  | .text s => .text s

/-- Each of the elements with its numbers as words or floats. -/
def roundedElements : List Json → List Json
  | [] => []
  | x :: xs => rounded x :: roundedElements xs

/-- A member with the numbers of its value as words or floats. -/
def roundedMember : Option String × Json → Option String × Json
  | (name, value) => (name, rounded value)

/-- Each of the members with its numbers as words or floats. -/
def roundedMembers : List (Option String × Json) → List (Option String × Json)
  | [] => []
  | m :: ms => roundedMember m :: roundedMembers ms

end

end SharedTensor.Json
