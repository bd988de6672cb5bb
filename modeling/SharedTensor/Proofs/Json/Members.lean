import Mathlib.Data.List.Nodup
import SharedTensor.Json.Members

/-!
# Reading records back

A value lists the fields of a record, of which some may be absent, if it is an object with one member for
each field that is given, in any order and among members of other names, or an array of their values in
order (`Json.Lists`). It holds the fields if it lists them and none is absent (`Json.Holds`,
`Json.holds_iff_lists`), as a record does that has been written (`Json.holds_record`).

The fields that are read are those that a value lists, given that their names differ
(`Json.fields?_eq_some_iff_lists`): the members with one of several names are, up to their order, those with
the first name, those with the second, and so on (`Json.filter_isNamed_perm`). Numbers, truth values and
tags are read from what they are written as, and from nothing else.
-/

namespace SharedTensor.Json

variable {ms : List (Option String × Json)} {fields : List (String × Option Json)}
  {held : List (String × Json)} {names : List String} {name : String} {v : Json}

/-! ## What a value lists and holds -/

/-- The members of a record, as they stand in its object. -/
def memberList (members : List (String × Json)) : List (Option String × Json) :=
  members.map fun m => (some m.1, m.2)

/-- The members of a record without the fields that are absent. -/
def givenList (fields : List (String × Option Json)) : List (Option String × Json) :=
  fields.flatMap fun f => f.2.toList.map (some f.1, ·)

/-- Does the member have one of the given names? -/
def isNamed (names : List String) (m : Option String × Json) : Bool :=
  m.1.any fun name => name ∈ names

/-- The value holds the fields: as members of an object whose other members have other names, or as
the elements of an array. -/
inductive Holds (fields : List (String × Json)) : Json → Prop
  | object {ms : List (Option String × Json)} (named : ∀ m ∈ ms, m.1.isSome)
      (same : (ms.filter (isNamed (fields.map (·.1)))).Perm (memberList fields)) :
      Holds fields (.object ms)
  | array : Holds fields (.array (fields.map (·.2)))

/-- The value lists the fields that are given: as members of an object whose other members have other
names, or as the elements of an array, in which only the last fields can be absent. -/
inductive Lists (fields : List (String × Option Json)) : Json → Prop
  | object {ms : List (Option String × Json)} (named : ∀ m ∈ ms, m.1.isSome)
      (same : (ms.filter (isNamed (fields.map (·.1)))).Perm (givenList fields)) :
      Lists fields (.object ms)
  | array {elements : List Json} {absent : Nat}
      (same : fields.map (·.2) = elements.map some ++ List.replicate absent none) :
      Lists fields (.array elements)

/-- To hold fields is to list them with none of them absent. -/
theorem holds_iff_lists {j : Json} : j.Holds held ↔ j.Lists (held.map fun f => (f.1, some f.2)) := by
  have given : givenList (held.map fun f => (f.1, some f.2)) = memberList held := by
    rw [givenList, List.flatMap_map, memberList, List.map_eq_flatMap]
    rfl
  have names : (held.map fun f => (f.1, some f.2)).map (·.1) = held.map (·.1) := List.map_map
  have values : (held.map fun f => (f.1, some f.2)).map (·.2) = (held.map (·.2)).map some := by
    rw [List.map_map, List.map_map]
    rfl
  constructor
  · rintro (⟨named, same⟩ | _)
    · exact .object named (by rwa [names, given])
    · exact @Lists.array _ _ 0 (by rw [values, List.replicate_zero, List.append_nil])
  · rintro (⟨named, same⟩ | @⟨elements, absent, same⟩)
    · rw [names, given] at same
      exact .object named same
    · rw [values] at same
      obtain rfl : absent = 0 := by
        cases absent with
        | zero => rfl
        | succ k =>
          have missing : none ∈ (held.map (·.2)).map some := same ▸ by simp
          simp at missing
      rw [List.replicate_zero, List.append_nil] at same
      rw [← (List.map_inj_right fun _ _ => Option.some.inj).1 same]
      exact .array

/-! ## Members by name -/

theorem valuesOf_append (ms ms' : List (Option String × Json)) :
    valuesOf name (ms ++ ms') = valuesOf name ms ++ valuesOf name ms' :=
  List.filterMap_append

theorem valuesOf_map_of_ne {other : String} (h : other ≠ name) (values : List Json) :
    valuesOf name (values.map (some other, ·)) = [] := by
  simp [valuesOf, h]

theorem valuesOf_map_self (values : List Json) :
    valuesOf name (values.map (some name, ·)) = values := by
  simp [valuesOf]

theorem valuesOf_givenList_of_not_mem (h : name ∉ fields.map (·.1)) :
    valuesOf name (givenList fields) = [] := by
  induction fields with
  | nil => rfl
  | cons f rest ih =>
    simp only [List.map_cons, List.mem_cons, not_or] at h
    rw [givenList, List.flatMap_cons, valuesOf_append, valuesOf_map_of_ne (Ne.symm h.1)]
    exact ih h.2

/-- Under the name of a field stands its value, if it is given. -/
theorem valuesOf_givenList (distinct : (fields.map (·.1)).Nodup) {f : String × Option Json}
    (h : f ∈ fields) : valuesOf f.1 (givenList fields) = f.2.toList := by
  induction fields with
  | nil => cases h
  | cons g rest ih =>
    obtain ⟨fresh, distinct⟩ := List.nodup_cons.1 distinct
    rw [givenList, List.flatMap_cons, valuesOf_append]
    change _ ++ valuesOf f.1 (givenList rest) = _
    rcases List.mem_cons.1 h with rfl | there
    · rw [valuesOf_map_self, valuesOf_givenList_of_not_mem fresh, List.append_nil]
    · have other : g.1 ≠ f.1 := fun same => fresh (List.mem_map.2 ⟨f, there, same.symm⟩)
      rw [valuesOf_map_of_ne other, ih distinct there, List.nil_append]

theorem isNamed_cons (names : List String) (m : Option String × Json) :
    isNamed (name :: names) m = (decide (m.1 = some name) || isNamed names m) := by
  obtain ⟨_ | n, v⟩ := m <;> simp [isNamed]

theorem valuesOf_filter_isNamed (h : name ∈ names) :
    valuesOf name (ms.filter (isNamed names)) = valuesOf name ms := by
  rw [valuesOf, List.filterMap_filter]
  refine List.filterMap_congr fun m _ => ?_
  by_cases hm : m.1 = some name <;> simp [hm, isNamed, h]

theorem filter_eq_map_valuesOf (name : String) (ms : List (Option String × Json)) :
    ms.filter (fun m => m.1 = some name) = (valuesOf name ms).map (some name, ·) := by
  induction ms with
  | nil => rfl
  | cons m rest ih =>
    obtain ⟨n, v⟩ := m
    by_cases h : n = some name
    · simp [valuesOf, h, ih]
    · simp [valuesOf, h, ih]

/-- The members with one of several names are those with each of them in turn, in some order. -/
theorem filter_isNamed_perm (distinct : names.Nodup) (ms : List (Option String × Json)) :
    (ms.filter (isNamed names)).Perm
      (names.flatMap fun name => (valuesOf name ms).map (some name, ·)) := by
  induction names with
  | nil => simp [isNamed]
  | cons name rest ih =>
    obtain ⟨fresh, distinct⟩ := List.nodup_cons.1 distinct
    have first (m : Option String × Json) :
        (decide (m.1 = some name) && isNamed (name :: rest) m) = decide (m.1 = some name) := by
      rw [isNamed_cons]
      cases decide (m.1 = some name) <;> rfl
    have second (m : Option String × Json) :
        (!decide (m.1 = some name) && isNamed (name :: rest) m) = isNamed rest m := by
      rw [isNamed_cons]
      by_cases hm : m.1 = some name
      · simp [isNamed, hm, fresh]
      · simp [hm]
    have parts := List.filter_append_perm (fun m => decide (m.1 = some name))
      (ms.filter (isNamed (name :: rest)))
    simp only [List.filter_filter, first, second, filter_eq_map_valuesOf] at parts
    rw [List.flatMap_cons]
    exact parts.symm.trans ((ih distinct).append_left _)

/-- The members of the fields that are given are there once each, and those of the others are not, whatever
the order and whatever stands between them. -/
theorem lists_object_iff (distinct : (fields.map (·.1)).Nodup) :
    (object ms).Lists fields ↔
      (∀ m ∈ ms, m.1.isSome) ∧ ∀ f ∈ fields, valuesOf f.1 ms = f.2.toList := by
  constructor
  · rintro (⟨named, same⟩ | _)
    refine ⟨named, fun f hf => ?_⟩
    have values := same.filterMap fun m => if m.1 = some f.1 then some m.2 else none
    change (valuesOf f.1 (ms.filter _)).Perm (valuesOf f.1 (givenList fields)) at values
    rw [valuesOf_filter_isNamed (List.mem_map_of_mem hf), valuesOf_givenList distinct hf] at values
    cases hv : f.2 with
    | none =>
      rw [hv] at values
      exact List.perm_nil.1 values
    | some v =>
      rw [hv] at values
      exact List.perm_singleton.1 values
  · rintro ⟨named, once⟩
    have members := filter_isNamed_perm distinct ms
    rw [List.flatMap_map] at members
    refine .object named (members.trans (List.Perm.of_eq ?_))
    exact List.flatMap_congr fun f hf => by rw [once f hf]

theorem holds_object_iff (distinct : (held.map (·.1)).Nodup) :
    (object ms).Holds held ↔
      (∀ m ∈ ms, m.1.isSome) ∧ ∀ f ∈ held, valuesOf f.1 ms = [f.2] := by
  rw [holds_iff_lists, lists_object_iff (by rwa [List.map_map]), List.forall_mem_map]
  rfl

/-- A field that a value holds has no other value there. -/
theorem Holds.eq_of_mem (distinct : (held.map (·.1)).Nodup) (holds : (Json.object ms).Holds held)
    {w : Json} (field : (name, v) ∈ held) (there : (some name, w) ∈ ms) : w = v := by
  have values := ((holds_object_iff distinct).1 holds).2 _ field
  have found : w ∈ valuesOf name ms := List.mem_filterMap.2 ⟨_, there, if_pos rfl⟩
  rw [values] at found
  exact List.mem_singleton.1 found

/-- One of the names is missing among the members, or is there more than once. -/
def Flawed (names : List String) (ms : List (Option String × Json)) : Prop :=
  ∃ name ∈ names, (ms.countP fun m => m.1 = some name) ≠ 1

theorem Holds.not_flawed (distinct : (held.map (·.1)).Nodup) (holds : (Json.object ms).Holds held) :
    ¬Flawed (held.map (·.1)) ms := by
  rintro ⟨name, hname, count⟩
  obtain ⟨f, hf, rfl⟩ := List.mem_map.1 hname
  have values := ((holds_object_iff distinct).1 holds).2 f hf
  refine count ?_
  rw [List.countP_eq_length_filter, filter_eq_map_valuesOf, values]
  rfl

/-! ## Fields that are read -/

theorem field?_eq_some_iff {field : Option Json} :
    field? ms name = some field ↔ valuesOf name ms = field.toList := by
  unfold field?
  cases field <;> split <;> simp_all

theorem mapM_eq_some_map_iff {α β : Type} {f : α → Option β} {g : α → β} {l : List α} :
    l.mapM f = some (l.map g) ↔ ∀ a ∈ l, f a = some (g a) := by
  induction l with
  | nil => simp
  | cons a rest ih => simp [List.mapM_cons, Option.bind_eq_some_iff, ih]

/-- **The fields that are read are those that the value lists.** -/
theorem fields?_eq_some_iff_lists (distinct : (fields.map (·.1)).Nodup) {j : Json} :
    j.fields? (fields.map (·.1)) = some (fields.map (·.2)) ↔ j.Lists fields := by
  cases j with
  | object ms =>
    rw [fields?, lists_object_iff distinct, List.mapM_map]
    have each : fields.mapM (field? ms ∘ (·.1)) = some (fields.map (·.2)) ↔
        ∀ f ∈ fields, valuesOf f.1 ms = f.2.toList := by
      rw [mapM_eq_some_map_iff]
      exact forall₂_congr fun f _ => field?_eq_some_iff
    split
    · next named => rw [each, and_iff_right (List.all_eq_true.1 named)]
    · next unnamed => exact iff_of_false nofun fun h => unnamed (List.all_eq_true.2 h.1)
  | array elements =>
    have length {absent : Nat}
        (same : fields.map (·.2) = elements.map some ++ List.replicate absent none) :
        fields.length = elements.length + absent := by
      simpa using congrArg List.length same
    rw [fields?, List.length_map]
    split
    · constructor
      · exact fun same => .array (Option.some.inj same).symm
      · rintro (_ | same)
        rw [same, length same, Nat.add_sub_cancel_left]
    · next long =>
      refine iff_of_false nofun ?_
      rintro (_ | same)
      exact long (length same ▸ Nat.le_add_right _ _)
  | _ => exact iff_of_false nofun nofun

theorem fields?_eq_some_iff (distinct : (held.map (·.1)).Nodup) {j : Json} :
    j.fields? (held.map (·.1)) = some (held.map fun f => some f.2) ↔ j.Holds held := by
  rw [holds_iff_lists, ← fields?_eq_some_iff_lists (by rwa [List.map_map]), List.map_map, List.map_map]
  rfl

/-- A record holds its fields. -/
theorem holds_record (held : List (String × Json)) : (record held).Holds held := by
  have named : (memberList held).filter (isNamed (held.map (·.1))) = memberList held := by
    refine List.filter_eq_self.2 fun m hm => ?_
    obtain ⟨f, hf, rfl⟩ := List.mem_map.1 hm
    exact decide_eq_true (List.mem_map_of_mem hf)
  refine .object (fun m hm => ?_) (List.Perm.of_eq named)
  obtain ⟨f, -, rfl⟩ := List.mem_map.1 hm
  rfl

theorem lists_record (given : List (String × Json)) :
    (record given).Lists (given.map fun f => (f.1, some f.2)) :=
  holds_iff_lists.1 (holds_record given)

/-! ## Numbers, truth values and tags -/

theorem integerIn?_eq_some_iff {low high i : Int} {j : Json} :
    j.integerIn? low high = some i ↔ j = .integer i ∧ low ≤ i ∧ i ≤ high := by
  cases j with
  | integer k =>
    rw [integerIn?]
    split
    · next bounds =>
      simp only [Option.some.injEq, integer.injEq]
      exact ⟨fun h => ⟨h, h ▸ bounds⟩, And.left⟩
    · next outside =>
      refine iff_of_false nofun ?_
      rintro ⟨h, bounds⟩
      cases h
      exact outside bounds
  | _ => exact iff_of_false nofun nofun

/-- A word is read from the integer that is its number, and from nothing else. -/
theorem map_integerIn?_eq_some_iff {α : Type} {low high : Int} {ofInt : Int → α} (toInt : α → Int)
    (bounds : ∀ a, low ≤ toInt a ∧ toInt a ≤ high) (inj : ∀ a b, toInt a = toInt b → a = b)
    (toInt_ofInt : ∀ i, low ≤ i → i ≤ high → toInt (ofInt i) = i) {j : Json} {a : α} :
    (j.integerIn? low high).map ofInt = some a ↔ j = .integer (toInt a) := by
  simp only [Option.map_eq_some_iff, integerIn?_eq_some_iff]
  constructor
  · rintro ⟨i, ⟨rfl, least, most⟩, rfl⟩
    rw [toInt_ofInt i least most]
  · rintro rfl
    obtain ⟨least, most⟩ := bounds a
    exact ⟨_, ⟨rfl, least, most⟩, inj _ _ (toInt_ofInt _ least most)⟩

/-- An unsigned word is read from the integer that is its number. -/
theorem map_integerIn?_unsigned_iff {α : Type} {size : Nat} {ofInt : Int → α} (toNat : α → Nat)
    (bound : ∀ a, toNat a < size) (inj : ∀ a b, toNat a = toNat b → a = b)
    (toNat_ofInt : ∀ n : Nat, n < size → toNat (ofInt n) = n) {j : Json} {a : α} :
    (j.integerIn? 0 (size - 1)).map ofInt = some a ↔ j = .integer (toNat a) := by
  refine map_integerIn?_eq_some_iff (fun a => (toNat a : Int)) (fun a => ?_)
    (fun a b h => inj a b (Int.ofNat.inj h)) fun i low high => ?_
  · have small := bound a
    omega
  · obtain ⟨n, rfl⟩ := Int.eq_ofNat_of_zero_le low
    rw [toNat_ofInt n (by omega)]

theorem byte?_eq_some_iff {j : Json} {b : UInt8} : j.byte? = some b ↔ j = .integer b.toNat :=
  map_integerIn?_unsigned_iff UInt8.toNat UInt8.toNat_lt (fun _ _ => UInt8.toNat_inj.1)
    fun n small => by
      simp only [UInt8.ofInt, UInt8.toNat_ofNat']
      omega

theorem halfword?_eq_some_iff {j : Json} {w : UInt16} :
    j.halfword? = some w ↔ j = .integer w.toNat :=
  map_integerIn?_unsigned_iff UInt16.toNat UInt16.toNat_lt (fun _ _ => UInt16.toNat_inj.1)
    fun n small => by
      simp only [UInt16.ofInt, UInt16.toNat_ofNat']
      omega

theorem word?_eq_some_iff {j : Json} {w : UInt64} : j.word? = some w ↔ j = .integer w.toNat :=
  map_integerIn?_unsigned_iff UInt64.toNat UInt64.toNat_lt (fun _ _ => UInt64.toNat_inj.1)
    fun n small => by
      simp only [UInt64.ofInt, UInt64.toNat_ofNat']
      omega

theorem signedHalf?_eq_some_iff {j : Json} {w : Int32} :
    j.signedHalf? = some w ↔ j = .integer w.toInt :=
  map_integerIn?_eq_some_iff _ (fun w => ⟨w.minValue_le_toInt, w.toInt_le⟩)
    (fun _ _ => Int32.toInt_inj.1) fun _ low high =>
      Int32.toInt_ofInt_of_le low (Int.lt_of_le_sub_one high)

theorem signedWord?_eq_some_iff {j : Json} {w : Int64} :
    j.signedWord? = some w ↔ j = .integer w.toInt :=
  map_integerIn?_eq_some_iff _ (fun w => ⟨w.minValue_le_toInt, w.toInt_le⟩)
    (fun _ _ => Int64.toInt_inj.1) fun _ low high =>
      Int64.toInt_ofInt_of_le low (Int.lt_of_le_sub_one high)

/-- A word is read back from its number. -/
theorem word?_integer (w : UInt64) : (Json.integer w.toNat).word? = some w :=
  word?_eq_some_iff.2 rfl

theorem bool?_eq_some_iff {j : Json} {b : Bool} : j.bool? = some b ↔ j = .bool b := by
  cases j <;> simp [bool?]

/-- The ways to write a tag. -/
inductive IsTag (tag : String) : Json → Prop
  | text : IsTag tag (.text (some tag))
  | member : IsTag tag (.object [(some tag, .null)])

theorem tag?_eq_some_iff {j : Json} {tag : String} : j.tag? = some tag ↔ j.IsTag tag := by
  constructor
  · intro h
    unfold tag? at h
    split at h
    · cases h
      exact .text
    · cases h
      exact .member
    · cases h
  · rintro (_ | _) <;> rfl

end SharedTensor.Json
