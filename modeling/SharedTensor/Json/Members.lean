import SharedTensor.Json

/-!
# Reading records from JSON

A record is written as an object with one member for each field, or as an array of the fields in
their order. In an object the members come in any order, those with other names are passed over, and
a field given twice is refused; so is an array with more elements than the record has fields.
-/

namespace SharedTensor.Json

/-- The values of the members with the given name. -/
def valuesOf (name : String) (members : List (Option String × Json)) : List Json :=
  members.filterMap fun m => if m.1 = some name then some m.2 else none

/-- The value of a field in an object: absent, given once, or refused. -/
def field? (members : List (Option String × Json)) (name : String) : Option (Option Json) :=
  match valuesOf name members with
  | [] => some none
  | [v] => some (some v)
  | _ => none

/-- The fields of a record in the order of their names; those that are not given are absent. -/
def fields? (names : List String) : Json → Option (List (Option Json))
  | .object members =>
    if members.all fun m => m.1.isSome then names.mapM (field? members) else none
  | .array elements =>
    if elements.length ≤ names.length then
      some (elements.map some ++ List.replicate (names.length - elements.length) none)
    else none
  | _ => none

/-- The tag of a case without data: a string, or an object with the tag as the only name and no
value. -/
def tag? : Json → Option String
  | .text s => s
  | .object [(some s, .null)] => some s
  | _ => none

/-- The integer between the given bounds. -/
def integerIn? (low high : Int) : Json → Option Int
  | .integer i => if low ≤ i ∧ i ≤ high then some i else none
  | _ => none

def byte? (j : Json) : Option UInt8 :=
  (j.integerIn? 0 (UInt8.size - 1)).map UInt8.ofInt

def halfword? (j : Json) : Option UInt16 :=
  (j.integerIn? 0 (UInt16.size - 1)).map UInt16.ofInt

def word? (j : Json) : Option UInt64 :=
  (j.integerIn? 0 (UInt64.size - 1)).map UInt64.ofInt

def signedHalf? (j : Json) : Option Int32 :=
  (j.integerIn? Int32.minValue.toInt Int32.maxValue.toInt).map Int32.ofInt

def signedWord? (j : Json) : Option Int64 :=
  (j.integerIn? Int64.minValue.toInt Int64.maxValue.toInt).map Int64.ofInt

def bool? : Json → Option Bool
  | .bool b => some b
  | _ => none

/-- A list of signed words. -/
def signedWords? : Json → Option (List Int64)
  | .array elements => elements.mapM signedWord?
  | _ => none

/-- An object with the given members. -/
def record (members : List (String × Json)) : Json :=
  .object (members.map fun m => (some m.1, m.2))

end SharedTensor.Json
