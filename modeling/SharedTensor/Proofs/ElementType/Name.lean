import Mathlib.Data.List.Basic
import SharedTensor.ElementType.Parser
import SharedTensor.Proofs.Text.Decimal

/-!
# Names of element types

A name is the word `bool` alone, or the word of a kind and a width, which the count of lanes may
follow after an `x` (`Name`, and `Name.Denotes` for the type that is meant). The reader takes these
names and no other text, and no text can be taken apart in two ways (`names_exactly`). Two facts carry
this: two letters of a word tell its kind (`ElementKind.word_append_inj`), and no word has a digit, so
that the `x` of a word is never mistaken for the one before the lanes (`cutLanes_word`).

What is printed is such a name, unless it is that of a boolean of eight bits with several lanes, which
has no width to print; types with lanes are told apart by what is printed (`name_reads_back`).
-/

namespace SharedTensor

open Decimal (Unsigned)

/-! ## Words -/

namespace ElementKind

theorem eq_of_take_word (k k' : ElementKind)
    (h : k.word.toList.take 2 = k'.word.toList.take 2) : k = k' := by
  revert h
  cases k <;> cases k' <;> decide

theorem two_le_length_word (k : ElementKind) : 2 ≤ k.word.toList.length := by
  cases k <;> decide

theorem isDigit_eq_false_of_mem_word (k : ElementKind) : ∀ c ∈ k.word.toList, c.isDigit = false := by
  cases k <;> simp [word]

/-- No word begins another one. -/
theorem word_append_inj {k k' : ElementKind} {r r' : List Char}
    (h : k.word.toList ++ r = k'.word.toList ++ r') : k = k' ∧ r = r' := by
  have letters := congrArg (List.take 2) h
  rw [List.take_append_of_le_length k.two_le_length_word,
    List.take_append_of_le_length k'.two_le_length_word] at letters
  obtain rfl := eq_of_take_word k k' letters
  exact ⟨rfl, List.append_cancel_left h⟩

end ElementKind

namespace ElementType

theorem afterWord_eq_some_iff {ws cs r : List Char} : afterWord ws cs = some r ↔ cs = ws ++ r := by
  fun_induction afterWord ws cs with
  | case1 cs => simp
  | case2 w ws => simp
  | case3 w ws cs ih => simp [ih]
  | case4 w ws c cs other => simp [Ne.symm other]

/-- The kind whose word opens a text, and what is left of the text. -/
theorem findSome?_afterWord_eq_some_iff {cs r : List Char} {k : ElementKind} :
    (ElementKind.all.findSome? fun k => (afterWord k.word.toList cs).map (k, ·)) = some (k, r) ↔
      cs = k.word.toList ++ r := by
  constructor
  · intro h
    obtain ⟨k', -, found⟩ := List.exists_of_findSome?_eq_some h
    obtain ⟨r', rest, same⟩ := Option.map_eq_some_iff.1 found
    obtain ⟨rfl, rfl⟩ := Prod.mk.inj same
    exact afterWord_eq_some_iff.1 rest
  · intro h
    have found : (afterWord k.word.toList cs).map (k, ·) = some (k, r) := by
      rw [afterWord_eq_some_iff.2 h, Option.map_some]
    cases hf : ElementKind.all.findSome? fun k => (afterWord k.word.toList cs).map (k, ·) with
    | none =>
      rw [List.findSome?_eq_none_iff] at hf
      rw [hf k k.mem_all] at found
      cases found
    | some p =>
      -- whichever kind is found first, the text begins with its word
      obtain ⟨k', -, found'⟩ := List.exists_of_findSome?_eq_some hf
      obtain ⟨r', rest, rfl⟩ := Option.map_eq_some_iff.1 found'
      obtain ⟨rfl, rfl⟩ := ElementKind.word_append_inj (h.symm.trans (afterWord_eq_some_iff.1 rest))
      rfl

/-- A name without lanes is `bool`, or a word and a width. -/
theorem base?_eq_some_iff {cs : List Char} {kind : ElementKind} {bits : UInt8} :
    base? cs = some (kind, bits) ↔
      (cs = "bool".toList ∧ kind = .bool ∧ bits = 8) ∨
        ∃ width, cs = kind.word.toList ++ width ∧ Unsigned width bits.toNat := by
  unfold base?
  split
  · next alone =>
    have wordless {width : List Char} (h : cs = kind.word.toList ++ width)
        (number : Unsigned width bits.toNat) : False := by
      have same : ElementKind.bool.word.toList ++ [] = kind.word.toList ++ width := by
        rw [List.append_nil, ← h, alone]
        rfl
      exact number.ne_nil (ElementKind.word_append_inj same).2.symm
    constructor
    · intro h
      obtain ⟨rfl, rfl⟩ := Prod.mk.inj (Option.some.inj h)
      exact .inl ⟨alone, rfl, rfl⟩
    · rintro (⟨-, rfl, rfl⟩ | ⟨width, h, number⟩)
      · rfl
      · exact (wordless h number).elim
  · next other =>
    simp only [Option.bind_eq_some_iff, Option.map_eq_some_iff, Prod.exists, Prod.mk.injEq, other,
      false_and, false_or, findSome?_afterWord_eq_some_iff, Decimal.byte?_eq_some_iff]
    constructor
    · rintro ⟨k, width, h, b, number, rfl, rfl⟩
      exact ⟨width, h, number⟩
    · rintro ⟨width, h, number⟩
      exact ⟨kind, width, h, bits, number, rfl, rfl⟩

/-! ## Lanes -/

/-- A text is cut at its last `x` behind a digit, if it is cut at all. -/
theorem cutLanes_cases (cs : List Char) :
    cutLanes cs = (cs, none) ∨ ∃ base lanes, cs = base ++ 'x' :: lanes ∧
      (∃ c ∈ base, c.isDigit = true) ∧ cutLanes cs = (base, some lanes) := by
  unfold cutLanes
  split
  · next y digit rest behind =>
    split
    · next isDigit =>
      have whole : cs.reverse = cs.reverse.takeWhile (· ≠ 'x') ++ y :: digit :: rest := by
        rw [← behind, List.takeWhile_append_dropWhile]
      have stop := List.head?_dropWhile_not (· ≠ 'x') cs.reverse
      rw [behind] at stop
      obtain rfl : y = 'x' := by simpa using stop
      refine .inr ⟨_, _, ?_, ⟨digit, by simp, isDigit⟩, rfl⟩
      simpa using congrArg List.reverse whole
    · exact .inl rfl
  · exact .inl rfl

theorem cutLanes_append {base lanes : List Char}
    (digit : ∃ c, base.getLast? = some c ∧ c.isDigit = true) (last : 'x' ∉ lanes) :
    cutLanes (base ++ 'x' :: lanes) = (base, some lanes) := by
  obtain ⟨c, hc, isDigit⟩ := digit
  obtain ⟨rest, rfl⟩ := List.getLast?_eq_some_iff.1 hc
  have before : ∀ d ∈ lanes.reverse, decide (d ≠ 'x') = true := by
    intro d hd
    simp only [ne_eq, decide_eq_true_eq]
    rintro rfl
    exact last (List.mem_reverse.1 hd)
  have turned : (rest ++ [c] ++ 'x' :: lanes).reverse =
      lanes.reverse ++ 'x' :: c :: rest.reverse := by simp
  rw [cutLanes, turned, List.takeWhile_append_of_pos before, List.dropWhile_append_of_pos before]
  simp [isDigit]

/-- The `x` of a word does not count, as no digit stands before it. -/
theorem cutLanes_word (kind : ElementKind) {width : List Char} (plain : 'x' ∉ width) :
    cutLanes (kind.word.toList ++ width) = (kind.word.toList ++ width, none) := by
  rcases cutLanes_cases (kind.word.toList ++ width) with whole | ⟨base, lanes, h, ⟨c, hc, digit⟩, -⟩
  · exact whole
  · rcases List.append_eq_append_iff.1 h with ⟨more, -, hwidth⟩ | ⟨more, hword, -⟩
    · exact absurd (by simp [hwidth]) plain
    · have letter := kind.isDigit_eq_false_of_mem_word c (by simp [hword, hc])
      rw [digit] at letter
      cases letter

/-! ## What a name is made of -/

/-- The parts of a name. -/
inductive Name
  /-- The word `bool` alone. -/
  | bool
  | plain (kind : ElementKind) (width : List Char)
  | laned (kind : ElementKind) (width count : List Char)

namespace Name

/-- The part of a name before the count of lanes. -/
def base : Name → List Char
  | bool => "bool".toList
  | plain kind width | laned kind width _ => kind.word.toList ++ width

/-- The count of lanes, if there is one. -/
def count? : Name → Option (List Char)
  | bool | plain .. => none
  | laned _ _ count => some count

/-- The characters of a name. -/
def chars (n : Name) : List Char :=
  n.base ++ n.count?.elim [] ('x' :: ·)

/-- The name means the type: a width that is left out is eight, and a count of lanes is one. -/
inductive Denotes : Name → ElementType → Prop
  | bool : Denotes .bool ⟨.bool, 8, 1⟩
  | plain {kind : ElementKind} {width : List Char} {bits : UInt8} :
      Unsigned width bits.toNat → Denotes (.plain kind width) ⟨kind, bits, 1⟩
  | laned {kind : ElementKind} {width count : List Char} {bits : UInt8} {lanes : UInt16} :
      Unsigned width bits.toNat → Unsigned count lanes.toNat →
        Denotes (.laned kind width count) ⟨kind, bits, lanes⟩

namespace Denotes

variable {m n : Name} {t u : ElementType}

theorem unique (h : n.Denotes t) (h' : n.Denotes u) : t = u := by
  cases h with
  | bool =>
    cases h'
    rfl
  | plain width =>
    cases h' with
    | plain width' => rw [UInt8.toNat_inj.1 (width.unique width')]
  | laned width count =>
    cases h' with
    | laned width' count' =>
      rw [UInt8.toNat_inj.1 (width.unique width'), UInt16.toNat_inj.1 (count.unique count')]

/-- A name is cut where its count of lanes begins. -/
theorem cutLanes_chars (h : n.Denotes t) : cutLanes n.chars = (n.base, n.count?) := by
  have noMark {cs : List Char} {k : Nat} (h : Unsigned cs k) : 'x' ∉ cs :=
    h.not_mem (by decide) (by decide)
  cases h with
  | bool => exact cutLanes_word .bool List.not_mem_nil
  | plain width =>
    rw [chars, count?, Option.elim_none, List.append_nil]
    exact cutLanes_word _ (noMark width)
  | laned width count =>
    obtain ⟨c, last, digit⟩ := width.exists_getLast?
    refine cutLanes_append ⟨c, ?_, digit⟩ (noMark count)
    rw [base, List.getLast?_append, last]
    rfl

/-- No `x` stands right behind the word of a name. -/
theorem exists_word (h : n.Denotes t) :
    ∃ rest, n.chars = t.kind.word.toList ++ rest ∧ rest.head? ≠ some 'x' := by
  have noMark {cs rest : List Char} {k : Nat} (h : Unsigned cs k) : (cs ++ rest).head? ≠ some 'x' := by
    intro head
    rw [List.head?_append_of_ne_nil cs h.ne_nil] at head
    exact h.not_mem (by decide) (by decide) (List.mem_of_head? head)
  cases h with
  | bool => exact ⟨[], rfl, nofun⟩
  | plain width => exact ⟨_, List.append_assoc .., noMark width⟩
  | laned width _ => exact ⟨_, List.append_assoc .., noMark width⟩

/-- **A text is a name in at most one way.** -/
theorem eq_of_chars_eq (hm : m.Denotes t) (hn : n.Denotes u) (h : m.chars = n.chars) : m = n := by
  have cut : (m.base, m.count?) = (n.base, n.count?) := by
    rw [← hm.cutLanes_chars, ← hn.cutLanes_chars, h]
  obtain ⟨base, count⟩ := Prod.mk.inj cut
  have alone {kind : ElementKind} {width : List Char} {b : Nat} (number : Unsigned width b)
      (h : ElementKind.bool.word.toList ++ [] = kind.word.toList ++ width) : False :=
    number.ne_nil (ElementKind.word_append_inj h).2.symm
  cases hm with
  | bool =>
    cases hn with
    | bool => rfl
    | plain width => exact (alone width base).elim
    | laned => cases count
  | plain width =>
    cases hn with
    | bool => exact (alone width base.symm).elim
    | plain =>
      obtain ⟨rfl, rfl⟩ := ElementKind.word_append_inj base
      rfl
    | laned => cases count
  | laned =>
    cases hn with
    | bool | plain => cases count
    | laned =>
      obtain ⟨rfl, rfl⟩ := ElementKind.word_append_inj base
      obtain rfl := Option.some.inj count
      rfl

end Denotes

end Name

/-! ## Reading -/

theorem ofNameChars?_eq_some_iff_of_cut {cs base : List Char} {count : Option (List Char)}
    (cut : cutLanes cs = (base, count)) {kind : ElementKind} {bits : UInt8} {lanes : UInt16} :
    ofNameChars? cs = some ⟨kind, bits, lanes⟩ ↔
      count.elim (some 1) Decimal.halfword? = some lanes ∧ base? base = some (kind, bits) := by
  simp [ofNameChars?, cut, Option.bind_eq_some_iff]

/-- The reader takes the names and gives what they mean. -/
theorem ofNameChars?_eq_some_iff {cs : List Char} {t : ElementType} :
    ofNameChars? cs = some t ↔ ∃ n : Name, n.Denotes t ∧ n.chars = cs := by
  constructor
  · intro h
    rcases cutLanes_cases cs with cut | ⟨base, count, rfl, ⟨c, hc, digit⟩, cut⟩
    · obtain ⟨one, read⟩ := (ofNameChars?_eq_some_iff_of_cut cut).1 h
      obtain ⟨kind, bits, lanes⟩ := t
      obtain rfl : 1 = lanes := Option.some.inj one
      rcases base?_eq_some_iff.1 read with ⟨rfl, rfl, rfl⟩ | ⟨width, rfl, number⟩
      · exact ⟨.bool, .bool, rfl⟩
      · exact ⟨.plain kind width, .plain number, List.append_nil _⟩
    · obtain ⟨number, read⟩ := (ofNameChars?_eq_some_iff_of_cut cut).1 h
      rcases base?_eq_some_iff.1 read with ⟨rfl, -, -⟩ | ⟨width, rfl, number'⟩
      · -- the word alone ends with no digit
        rw [ElementKind.bool.isDigit_eq_false_of_mem_word c hc] at digit
        cases digit
      · exact ⟨.laned t.kind width count,
          .laned number' (Decimal.halfword?_eq_some_iff.1 number), rfl⟩
  · rintro ⟨n, denotes, rfl⟩
    have cut := denotes.cutLanes_chars
    cases denotes with
    | bool => exact (ofNameChars?_eq_some_iff_of_cut cut).2 ⟨rfl, rfl⟩
    | plain width =>
      exact (ofNameChars?_eq_some_iff_of_cut cut).2
        ⟨rfl, base?_eq_some_iff.2 (.inr ⟨_, rfl, width⟩)⟩
    | laned width count =>
      exact (ofNameChars?_eq_some_iff_of_cut cut).2
        ⟨Decimal.halfword?_eq_some_iff.2 count, base?_eq_some_iff.2 (.inr ⟨_, rfl, width⟩)⟩

theorem ofName_eq_ok_iff {text : String} {t : ElementType} :
    ofName text = .ok t ↔ ∃ n : Name, n.Denotes t ∧ n.chars = text.toList := by
  rw [← ofNameChars?_eq_some_iff, ofName]
  cases ofNameChars? text.toList <;> simp

theorem ofName_eq_error {text : String}
    (h : ∀ (n : Name) (t : ElementType), n.Denotes t → n.chars ≠ text.toList) :
    ofName text = .error (.unknownElementType text) := by
  rw [ofName]
  cases read : ofNameChars? text.toList with
  | none => rfl
  | some t =>
    obtain ⟨n, denotes, same⟩ := ofNameChars?_eq_some_iff.1 read
    exact absurd same (h n t denotes)

/-- **The reader takes the names, each in the one way in which it can be taken apart, and no other
text.** -/
theorem names_exactly (text : String) :
    (∀ t, ofName text = .ok t ↔ ∃ n : Name, n.Denotes t ∧ n.chars = text.toList) ∧
      (∀ (m n : Name) (t u : ElementType), m.Denotes t → n.Denotes u → m.chars = text.toList →
        n.chars = text.toList → m = n ∧ t = u) ∧
      ((∀ (n : Name) (t : ElementType), n.Denotes t → n.chars ≠ text.toList) →
        ofName text = .error (.unknownElementType text) ∧
          (Fault.unknownElementType text).kind = .invalidInput) := by
  refine ⟨fun t => ofName_eq_ok_iff, fun m n t u hm hn hmText hnText => ?_,
    fun other => ⟨ofName_eq_error other, rfl⟩⟩
  obtain rfl := hm.eq_of_chars_eq hn (hmText.trans hnText.symm)
  exact ⟨rfl, hm.unique hn⟩

/-- The first `x` of this name belongs to the word and the second one to the lanes, and `bool` has no
lanes without a width. -/
theorem names_exactly_complex :
    ofName "complex64x+2" = .ok ⟨.complex, 64, 2⟩ ∧
      (∀ (n : Name) (t : ElementType), n.Denotes t → n.chars = "complex64x+2".toList →
        n = .laned .complex ['6', '4'] ['+', '2']) ∧
      ofName "boolx4" = .error (.unknownElementType "boolx4") := by
  have complex : Name.Denotes (.laned .complex ['6', '4'] ['+', '2']) ⟨.complex, 64, 2⟩ :=
    .laned (Decimal.byte?_eq_some_iff.1 (by decide)) (Decimal.halfword?_eq_some_iff.1 (by decide))
  obtain ⟨reads, once, -⟩ := names_exactly "complex64x+2"
  refine ⟨(reads _).2 ⟨_, complex, by decide⟩,
    fun n t hn h => (once n _ t _ hn complex h (by decide)).1, ?_⟩
  obtain ⟨reads, -, refuses⟩ := names_exactly "boolx4"
  refine (refuses fun n t hn h => ?_).1
  have read : ofName "boolx4" = .ok t := (reads t).2 ⟨n, hn, h⟩
  have refused : ofNameChars? "boolx4".toList = none := by decide
  rw [ofName, refused] at read
  cases read

/-! ## Printing -/

/-- A boolean of eight bits with several lanes: its name gives no width. -/
def IsPackedBool (t : ElementType) : Prop :=
  t.kind = .bool ∧ t.bits = 8 ∧ 1 < t.lanes
  deriving Decidable

variable {t u : ElementType}

theorem exists_denotes_nameChars (lanes : 1 ≤ t.lanes) (other : ¬t.IsPackedBool) :
    ∃ n : Name, n.Denotes t ∧ n.chars = t.nameChars := by
  obtain ⟨kind, bits, count⟩ := t
  have width : Unsigned (Decimal.ofNat bits.toNat) bits.toNat := Decimal.unsigned_ofNat _
  by_cases many : 1 < count
  · have shown : ¬(kind = .bool ∧ bits = 8) := fun h => other ⟨h.1, h.2, many⟩
    exact ⟨.laned kind _ _, .laned width (Decimal.unsigned_ofNat _), by
      simp [nameChars, Name.chars, Name.base, Name.count?, many, shown]⟩
  · obtain rfl : count = 1 := UInt16.le_antisymm (UInt16.not_lt.1 many) lanes
    by_cases alone : kind = .bool ∧ bits = 8
    · obtain ⟨rfl, rfl⟩ := alone
      exact ⟨.bool, .bool, rfl⟩
    · exact ⟨.plain kind _, .plain width, by
        simp [nameChars, Name.chars, Name.base, Name.count?, alone]⟩

/-- What is printed of a packed boolean is no name: the `x` of the lanes stands behind the word. -/
theorem chars_ne_nameChars (packed : t.IsPackedBool) {n : Name} (h : n.Denotes u) :
    n.chars ≠ t.nameChars := by
  intro same
  obtain ⟨kind, bits, lanes⟩ := t
  obtain ⟨rfl, rfl, many⟩ : kind = .bool ∧ bits = 8 ∧ 1 < lanes := packed
  obtain ⟨rest, word, behind⟩ := h.exists_word
  have printed : u.kind.word.toList ++ rest =
      ElementKind.bool.word.toList ++ 'x' :: Decimal.ofNat lanes.toNat := by
    simpa [nameChars, many, ← word] using same
  obtain ⟨-, rfl⟩ := ElementKind.word_append_inj printed
  exact behind rfl

theorem ofName_name (lanes : 1 ≤ t.lanes) (other : ¬t.IsPackedBool) : ofName t.name = .ok t := by
  obtain ⟨n, denotes, same⟩ := exists_denotes_nameChars lanes other
  exact ofName_eq_ok_iff.2 ⟨n, denotes, by rw [same, name, String.toList_ofList]⟩

theorem ofName_name_of_isPackedBool (packed : t.IsPackedBool) :
    ofName t.name = .error (.unknownElementType t.name) :=
  ofName_eq_error fun _ _ denotes => by
    rw [name, String.toList_ofList]
    exact chars_ne_nameChars packed denotes

/-- Packed booleans differ in the count of lanes, which is printed. -/
theorem eq_of_name_eq_of_isPackedBool (ht : t.IsPackedBool) (hu : u.IsPackedBool)
    (h : u.name = t.name) : u = t := by
  obtain ⟨kind, bits, lanes⟩ := t
  obtain ⟨rfl, rfl, many⟩ : kind = .bool ∧ bits = 8 ∧ 1 < lanes := ht
  obtain ⟨kind', bits', lanes'⟩ := u
  obtain ⟨rfl, rfl, many'⟩ : kind' = .bool ∧ bits' = 8 ∧ 1 < lanes' := hu
  have printed : Decimal.ofNat lanes'.toNat = Decimal.ofNat lanes.toNat := by
    simpa [name, nameChars, many, many'] using congrArg String.toList h
  have read : some lanes' = some lanes := by
    rw [← Decimal.halfword?_ofNat lanes', printed, Decimal.halfword?_ofNat]
  rw [Option.some.inj read]

/-- **What is printed is read back**, but for booleans of eight bits with several lanes. No two types
with lanes are printed alike. -/
theorem name_reads_back (t : ElementType) (lanes : 1 ≤ t.lanes) :
    ofName t.name = (if t.IsPackedBool then .error (.unknownElementType t.name) else .ok t) ∧
      ∀ u : ElementType, 1 ≤ u.lanes → u.name = t.name → u = t := by
  refine ⟨?_, fun u lanes' h => ?_⟩
  · split
    · next packed => exact ofName_name_of_isPackedBool packed
    · next other => exact ofName_name lanes other
  · by_cases ht : t.IsPackedBool
    · by_cases hu : u.IsPackedBool
      · exact eq_of_name_eq_of_isPackedBool ht hu h
      · have refused := ofName_name_of_isPackedBool ht
        rw [← h, ofName_name lanes' hu] at refused
        cases refused
    · have read := ofName_name lanes ht
      by_cases hu : u.IsPackedBool
      · rw [← h, ofName_name_of_isPackedBool hu] at read
        cases read
      · rw [← h, ofName_name lanes' hu] at read
        exact Except.ok.inj read

/-- The widest complex numbers with the most lanes. -/
theorem name_reads_back_widest :
    let t : ElementType := ⟨.complex, 255, 65535⟩
    1 ≤ t.lanes ∧ t.name = "complex255x65535" ∧ ofName t.name = .ok t := by
  intro t
  have lanes : 1 ≤ t.lanes := by decide
  have other : ¬t.IsPackedBool := by decide
  have read := (name_reads_back t lanes).1
  rw [if_neg other] at read
  exact ⟨lanes, by decide, read⟩

/-- Four booleans of eight bits are printed as `boolx4`, which is not read. -/
theorem not_name_reads_back_packed :
    ¬∀ t : ElementType, 1 ≤ t.lanes → ofName t.name = .ok t := by
  intro h
  have read := h ⟨.bool, 8, 4⟩ (by decide)
  rw [ofName_name_of_isPackedBool (by decide)] at read
  cases read

end ElementType

end SharedTensor
