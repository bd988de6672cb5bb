import SharedTensor.ElementType.Parser
import SharedTensor.Proofs.Text.Decimal

/-!
# Type strings

A type string is the mark of a byte order, the letter of a kind and a count of bytes, which is 31 at
most; it means a type of one lane and as many bytes (`TypeString.Denotes`). Every other text is refused
for one reason: its count is looked at first, then the byte order, then the kind, and the size of the
count last (`TypeString.Refused`). A text cannot be both, and it is one of them since a numeral is not
empty, so that a text with a count has the two characters in front of it (`exists_parts`). From this
follow what the reader takes and what it says of everything else (`type_strings_exactly`).
-/

namespace SharedTensor.ElementType

open Decimal (Unsigned)

/-! ## What a type string is made of -/

/-- The marks of the byte orders that need no rearrangement. -/
def nativeMarks : List Char :=
  ['|', '=', '<']

/-- The letters of the kinds that a type string can name. -/
inductive IsLetter : Char → ElementKind → Prop
  | float : IsLetter 'f' .float
  | int : IsLetter 'i' .int
  | uint : IsLetter 'u' .uint
  | bool : IsLetter 'b' .bool
  | complex : IsLetter 'c' .complex

/-- The parts of a type string. -/
structure TypeString where
  order : Char
  letter : Char
  count : List Char

namespace TypeString

/-- The characters of a type string. -/
def chars (s : TypeString) : List Char :=
  s.order :: s.letter :: s.count

/-- The type string means the type: one lane of its kind, with eight bits for each byte of the count. -/
inductive Denotes : TypeString → ElementType → Prop
  | intro {order letter : Char} {count : List Char} {kind : ElementKind} {bytes : Nat} :
      order ∈ nativeMarks → IsLetter letter kind → Unsigned count bytes → bytes ≤ 31 →
        Denotes ⟨order, letter, count⟩ (scalar kind (UInt8.ofNat (bytes * 8)))

/-- The fault is the first thing that is wrong with the text. -/
inductive Refused (text : String) : Fault → Prop
  /-- No numeral of sixteen bits stands after the first two characters. -/
  | malformed (noCount : ∀ bytes : UInt16, ¬Unsigned (text.toList.drop 2) bytes.toNat) :
      Refused text (.malformedTypeString text)
  | foreign {s : TypeString} {bytes : UInt16} (parts : s.chars = text.toList)
      (count : Unsigned s.count bytes.toNat) (order : s.order ∉ nativeMarks) :
      Refused text (.foreignByteOrder text)
  | unsupported {s : TypeString} {bytes : UInt16} (parts : s.chars = text.toList)
      (count : Unsigned s.count bytes.toNat) (order : s.order ∈ nativeMarks)
      (letter : ∀ kind, ¬IsLetter s.letter kind) : Refused text (.unsupportedTypeString text)
  | wide {s : TypeString} {bytes : UInt16} {kind : ElementKind} (parts : s.chars = text.toList)
      (count : Unsigned s.count bytes.toNat) (order : s.order ∈ nativeMarks)
      (letter : IsLetter s.letter kind) (large : 31 < bytes.toNat) :
      Refused text (.elementTooWide text)

end TypeString

variable {text : String} {t : ElementType} {f : Fault} {s : TypeString}

theorem isNativeOrder_iff {c : Char} : isNativeOrder c = true ↔ c ∈ nativeMarks := by
  simp [isNativeOrder, nativeMarks, or_assoc]

theorem typeStringKind?_eq_some_iff {c : Char} {kind : ElementKind} :
    typeStringKind? c = some kind ↔ IsLetter c kind := by
  constructor
  · intro h
    unfold typeStringKind? at h
    split at h <;> cases h
    · exact .float
    · exact .int
    · exact .uint
    · exact .bool
    · exact .complex
  · rintro (_ | _ | _ | _ | _) <;> rfl

/-! ## Reading -/

/-- What is done with a text once its count has been read. -/
theorem ofTypeString_of_count {bytes : UInt16} (parts : s.chars = text.toList)
    (count : Unsigned s.count bytes.toNat) :
    ofTypeString text =
      if !isNativeOrder s.order then .error (.foreignByteOrder text)
      else
        match typeStringKind? s.letter with
        | none => .error (.unsupportedTypeString text)
        | some kind =>
          if bytes.toNat * 8 < UInt8.size then .ok (scalar kind (UInt8.ofNat (bytes.toNat * 8)))
          else .error (.elementTooWide text) := by
  have read : Decimal.halfword? s.count = some bytes := Decimal.halfword?_eq_some_iff.2 count
  have rest : text.toList.drop 2 = s.count := by rw [← parts]; rfl
  rw [ofTypeString, rest, read, ← parts]
  rfl

theorem TypeString.Denotes.ofTypeString_eq (h : s.Denotes t) (parts : s.chars = text.toList) :
    ofTypeString text = .ok t := by
  cases h with
  | @intro _ _ _ kind bytes order letter count small =>
    have word : (UInt16.ofNat bytes).toNat = bytes :=
      UInt16.toNat_ofNat_of_lt' (Nat.lt_of_le_of_lt small (by decide))
    have count : Unsigned _ (UInt16.ofNat bytes).toNat := word.symm ▸ count
    have fits : bytes * 8 < UInt8.size := Nat.lt_of_le_of_lt (Nat.mul_le_mul_right 8 small) (by decide)
    rw [ofTypeString_of_count parts count, word, isNativeOrder_iff.2 order,
      typeStringKind?_eq_some_iff.2 letter]
    exact if_pos fits

theorem TypeString.Refused.ofTypeString_eq (h : Refused text f) : ofTypeString text = .error f := by
  cases h with
  | malformed noCount =>
    have unread : Decimal.halfword? (text.toList.drop 2) = none :=
      Option.eq_none_iff_forall_ne_some.2 fun bytes read =>
        noCount bytes (Decimal.halfword?_eq_some_iff.1 read)
    simp only [ofTypeString, unread]
  | foreign parts count order =>
    have other : isNativeOrder _ = false := Bool.eq_false_iff.2 (mt isNativeOrder_iff.1 order)
    rw [ofTypeString_of_count parts count, other]
    rfl
  | unsupported parts count order letter =>
    have unknown : typeStringKind? _ = none :=
      Option.eq_none_iff_forall_ne_some.2 fun kind named =>
        letter kind (typeStringKind?_eq_some_iff.1 named)
    rw [ofTypeString_of_count parts count, isNativeOrder_iff.2 order, unknown]
    rfl
  | @wide _ bytes _ parts count order letter large =>
    have wide : ¬bytes.toNat * 8 < UInt8.size := by
      rw [UInt8.size]
      omega
    rw [ofTypeString_of_count parts count, isNativeOrder_iff.2 order,
      typeStringKind?_eq_some_iff.2 letter]
    exact if_neg wide

/-- A text with a count has the two characters that stand in front of it. -/
theorem exists_parts {cs : List Char} {n : Nat} (h : Unsigned (cs.drop 2) n) :
    ∃ s : TypeString, s.chars = cs ∧ s.count = cs.drop 2 := by
  match cs with
  | [] | [_] => exact absurd rfl h.ne_nil
  | order :: letter :: count => exact ⟨⟨order, letter, count⟩, rfl, rfl⟩

/-- A text is a type string, or something is wrong with it. -/
theorem denotes_or_refused (text : String) :
    (∃ (s : TypeString) (t : ElementType), s.Denotes t ∧ s.chars = text.toList) ∨
      ∃ f, TypeString.Refused text f := by
  by_cases counted : ∃ bytes : UInt16, Unsigned (text.toList.drop 2) bytes.toNat
  · obtain ⟨bytes, number⟩ := counted
    obtain ⟨s, parts, same⟩ := exists_parts number
    rw [← same] at number
    by_cases order : s.order ∈ nativeMarks
    · by_cases named : ∃ kind, IsLetter s.letter kind
      · obtain ⟨kind, letter⟩ := named
        by_cases small : bytes.toNat ≤ 31
        · exact .inl ⟨s, _, .intro order letter number small, parts⟩
        · exact .inr ⟨_, .wide parts number order letter (Nat.lt_of_not_le small)⟩
      · exact .inr ⟨_, .unsupported parts number order fun kind letter => named ⟨kind, letter⟩⟩
    · exact .inr ⟨_, .foreign parts number order⟩
  · exact .inr ⟨_, .malformed fun bytes number => counted ⟨bytes, number⟩⟩

theorem ofTypeString_eq_ok_iff :
    ofTypeString text = .ok t ↔ ∃ s : TypeString, s.Denotes t ∧ s.chars = text.toList := by
  constructor
  · intro h
    rcases denotes_or_refused text with ⟨s, u, denotes, parts⟩ | ⟨f, refused⟩
    · rw [denotes.ofTypeString_eq parts] at h
      exact ⟨s, Except.ok.inj h ▸ denotes, parts⟩
    · rw [refused.ofTypeString_eq] at h
      cases h
  · rintro ⟨s, denotes, parts⟩
    exact denotes.ofTypeString_eq parts

theorem ofTypeString_eq_error_iff : ofTypeString text = .error f ↔ TypeString.Refused text f := by
  constructor
  · intro h
    rcases denotes_or_refused text with ⟨s, u, denotes, parts⟩ | ⟨g, refused⟩
    · rw [denotes.ofTypeString_eq parts] at h
      cases h
    · rw [refused.ofTypeString_eq] at h
      exact Except.error.inj h ▸ refused
  · exact TypeString.Refused.ofTypeString_eq

theorem size_scalar (kind : ElementKind) (bits : UInt8) :
    (scalar kind bits).size = (bits.toNat + 7) / 8 := by
  simp [size, scalar]

/-- An element has as many bytes as the count says. -/
theorem TypeString.Denotes.unsigned_size (h : s.Denotes t) : Unsigned s.count t.size := by
  cases h with
  | @intro _ _ _ kind bytes _ _ count small =>
    have width : (UInt8.ofNat (bytes * 8)).toNat = bytes * 8 :=
      UInt8.toNat_ofNat_of_lt' (Nat.lt_of_le_of_lt (Nat.mul_le_mul_right 8 small) (by decide))
    have whole : (bytes * 8 + 7) / 8 = bytes := by omega
    rwa [size_scalar, width, whole]

/-- **The reader takes the type strings and keeps the size of an element**; everything else is refused
for the first thing that is wrong with it. -/
theorem type_strings_exactly (text : String) :
    (∀ t, ofTypeString text = .ok t ↔ ∃ s : TypeString, s.Denotes t ∧ s.chars = text.toList) ∧
      (∀ (s : TypeString) (t : ElementType), s.Denotes t →
        IsLetter s.letter t.kind ∧ t.lanes = 1 ∧ Unsigned s.count t.size ∧ t.size ≤ 31) ∧
      (∀ f, ofTypeString text = .error f ↔ TypeString.Refused text f) ∧
      (Fault.malformedTypeString text).kind = .invalidInput ∧
      (Fault.foreignByteOrder text).kind = .unsupportedOperation ∧
      (Fault.unsupportedTypeString text).kind = .unsupportedOperation ∧
      (Fault.elementTooWide text).kind = .invalidInput := by
  refine ⟨fun t => ofTypeString_eq_ok_iff, fun s t denotes => ?_,
    fun f => ofTypeString_eq_error_iff, rfl, rfl, rfl, rfl⟩
  have size := denotes.unsigned_size
  cases denotes with
  | intro order letter count small => exact ⟨letter, rfl, size, (count.unique size) ▸ small⟩

/-- The widest type, with a sign and a zero in front of its count. One byte more is too wide, a number of
seventeen bits is no count, and a count alone does not say what it counts. -/
theorem type_strings_exactly_widest :
    let t : ElementType := ⟨.complex, 248, 1⟩
    ofTypeString "=c+031" = .ok t ∧
      (t.lanes = 1 ∧ Unsigned ['+', '0', '3', '1'] t.size ∧ t.size ≤ 31) ∧
      ofTypeString "=c32" = .error (.elementTooWide "=c32") ∧
      ofTypeString ">é65536" = .error (.malformedTypeString ">é65536") ∧
      ofTypeString "31" = .error (.malformedTypeString "31") := by
  intro t
  have widest : TypeString.Denotes ⟨'=', 'c', ['+', '0', '3', '1']⟩ t :=
    @TypeString.Denotes.intro _ _ _ .complex 31 (by decide) .complex
      (Decimal.natural?_eq_some_iff.1 (by decide)) (by decide)
  have tooWide : TypeString.Refused "=c32" (.elementTooWide "=c32") :=
    @TypeString.Refused.wide _ ⟨'=', 'c', ['3', '2']⟩ 32 _ (by decide)
      (Decimal.halfword?_eq_some_iff.1 (by decide)) (by decide) .complex (by decide)
  have unread {text : String} (h : Decimal.halfword? (text.toList.drop 2) = none) :
      TypeString.Refused text (.malformedTypeString text) :=
    .malformed fun bytes count => by
      rw [Decimal.halfword?_eq_some_iff.2 count] at h
      cases h
  exact ⟨((type_strings_exactly _).1 _).2 ⟨_, widest, by decide⟩,
    ((type_strings_exactly "=c+031").2.1 _ _ widest).2,
    ((type_strings_exactly _).2.2.1 _).2 tooWide,
    ((type_strings_exactly _).2.2.1 _).2 (unread (by decide)),
    ((type_strings_exactly _).2.2.1 _).2 (unread (by decide))⟩

end SharedTensor.ElementType
