import Mathlib.Data.List.TakeWhile
import SharedTensor.Device.Parser
import SharedTensor.Proofs.Kinds
import SharedTensor.Proofs.Text.Decimal

/-!
# Text forms of devices

A device is written as the name of its kind, alone if the index is zero, or with a colon and a numeral of
the index behind it (`Device.Indexed`). No name has a colon, so the name ends at the first colon of a text
(`indexed_iff`), also where the name of one kind begins that of another. The reader takes these texts and
refuses all others, for the index before the name (`Device.Refused`); what is printed is one of them
(`text_forms_exactly`).
-/

namespace SharedTensor

open Decimal (Signed)

theorem DeviceKind.colon_not_mem_name (k : DeviceKind) : ':' ∉ k.name.toList := by
  cases k <;> decide

namespace Device

/-- The text gives the index after the name; the name alone gives zero. -/
inductive Indexed (name : List Char) : Int32 → List Char → Prop
  | bare : Indexed name 0 name
  | colon {index : List Char} {i : Int32} : Signed index i.toInt →
      Indexed name i (name ++ ':' :: index)

/-- The fault is what is wrong with the index of the text, or with the name if the index is right. -/
inductive Refused (text : String) : Fault → Prop
  | index {name index : List Char} (cut : text.toList = name ++ ':' :: index) (first : ':' ∉ name)
      (noNumeral : ∀ i : Int32, ¬Signed index i.toInt) :
      Refused text (.deviceRefused text "device index is not an integer")
  | kind {name : List Char} {i : Int32} (indexed : Indexed name i text.toList) (first : ':' ∉ name)
      (unknown : ∀ k : DeviceKind, k.name.toList ≠ name) :
      Refused text (.deviceRefused text "unknown device kind")

variable {cs name : List Char} {i : Int32} {d : Device} {text : String} {f : Fault}

/-! ## The first colon -/

/-- A name goes up to the first colon. -/
theorem cut_append (rest : List Char) (first : ':' ∉ name) (stop : ∀ c ∈ rest.head?, c = ':') :
    (name ++ rest).takeWhile (· ≠ ':') = name ∧ (name ++ rest).dropWhile (· ≠ ':') = rest := by
  have before : ∀ c ∈ name, decide (c ≠ ':') = true := fun c hc =>
    decide_eq_true fun h => first (h ▸ hc)
  rw [List.takeWhile_append_of_pos before, List.dropWhile_append_of_pos before]
  cases rest with
  | nil => simp
  | cons c rest => simp [stop c rfl]

theorem parts_of_colon (index : List Char) (first : ':' ∉ name) :
    (name ++ ':' :: index).takeWhile (· ≠ ':') = name ∧
      indexPart? (name ++ ':' :: index) = Decimal.signedWord? index := by
  obtain ⟨before, behind⟩ := cut_append (':' :: index) first (by simp)
  exact ⟨before, by rw [indexPart?, behind]⟩

/-- Without a colon all of the text is the name, and the index is zero. -/
theorem parts_of_no_colon (none : ':' ∉ cs) :
    cs.takeWhile (· ≠ ':') = cs ∧ indexPart? cs = some 0 := by
  obtain ⟨before, behind⟩ := cut_append [] none (by simp)
  rw [List.append_nil] at before behind
  exact ⟨before, by rw [indexPart?, behind]⟩

/-- The name ends at the first colon. -/
theorem indexed_iff (first : ':' ∉ name) :
    Indexed name i cs ↔ cs.takeWhile (· ≠ ':') = name ∧ indexPart? cs = some i := by
  constructor
  · rintro (_ | number)
    · exact parts_of_no_colon first
    · obtain ⟨before, read⟩ := parts_of_colon _ first
      exact ⟨before, read.trans (Decimal.signedWord?_eq_some_iff.2 number)⟩
  · rintro ⟨rfl, read⟩
    by_cases colon : ':' ∈ cs
    · obtain ⟨name, index, rfl, plain⟩ := List.eq_append_cons_of_mem colon
      obtain ⟨before, same⟩ := parts_of_colon index plain
      rw [before]
      exact .colon (Decimal.signedWord?_eq_some_iff.1 (same.symm.trans read))
    · obtain ⟨whole, zero⟩ := parts_of_no_colon colon
      obtain rfl : 0 = i := Option.some.inj (zero.symm.trans read)
      rw [whole]
      exact .bare

theorem indexPart?_eq_none_iff : indexPart? cs = none ↔
    ∃ name index, cs = name ++ ':' :: index ∧ ':' ∉ name ∧ ∀ i : Int32, ¬Signed index i.toInt := by
  constructor
  · intro unread
    by_cases colon : ':' ∈ cs
    · obtain ⟨name, index, rfl, first⟩ := List.eq_append_cons_of_mem colon
      refine ⟨name, index, rfl, first, fun i number => ?_⟩
      rw [(parts_of_colon _ first).2, Decimal.signedWord?_eq_some_iff.2 number] at unread
      cases unread
    · rw [(parts_of_no_colon colon).2] at unread
      cases unread
  · rintro ⟨name, index, rfl, first, noNumeral⟩
    rw [(parts_of_colon _ first).2]
    exact Option.eq_none_iff_forall_ne_some.2 fun i read =>
      noNumeral i (Decimal.signedWord?_eq_some_iff.1 read)

/-! ## Reading -/

theorem ofText_eq_ok_iff :
    ofText text = .ok d ↔ Indexed d.kind.name.toList d.index text.toList := by
  rw [indexed_iff d.kind.colon_not_mem_name, eq_comm (a := List.takeWhile _ _),
    ← DeviceKind.ofName?_eq_some_iff, ofText]
  obtain ⟨kind, index⟩ := d
  cases indexPart? text.toList with
  | none => simp
  | some i =>
    cases DeviceKind.ofName? (text.toList.takeWhile (· ≠ ':')) with
    | none => simp
    | some k => simp [and_comm]

theorem ofText_eq_error_iff : ofText text = .error f ↔ Refused text f := by
  constructor
  · intro h
    rw [ofText] at h
    split at h
    · next unread =>
      obtain ⟨name, index, cut, first, noNumeral⟩ := indexPart?_eq_none_iff.1 unread
      obtain rfl := Except.error.inj h
      exact .index cut first noNumeral
    · next read =>
      split at h
      · next other =>
        have first : ':' ∉ text.toList.takeWhile (· ≠ ':') := fun there => by
          simpa using List.mem_takeWhile_imp there
        obtain rfl := Except.error.inj h
        refine .kind ((indexed_iff first).2 ⟨rfl, read⟩) first fun k named => ?_
        rw [DeviceKind.ofName?_eq_some_iff.2 named] at other
        cases other
      · cases h
  · rintro (⟨cut, first, noNumeral⟩ | ⟨indexed, first, unknown⟩)
    · rw [ofText, indexPart?_eq_none_iff.2 ⟨_, _, cut, first, noNumeral⟩]
    · obtain ⟨rfl, read⟩ := (indexed_iff first).1 indexed
      have other : DeviceKind.ofName? (text.toList.takeWhile (· ≠ ':')) = none :=
        Option.eq_none_iff_forall_ne_some.2 fun k named =>
          unknown k (DeviceKind.ofName?_eq_some_iff.1 named)
      rw [ofText, read]
      simp only [other]

/-! ## Printing -/

theorem indexed_textChars (d : Device) : Indexed d.kind.name.toList d.index d.textChars := by
  unfold textChars
  split
  · next first =>
    rw [first]
    exact .bare
  · exact .colon (Decimal.signed_ofInt _)

theorem ofText_text (d : Device) : ofText d.text = .ok d := by
  rw [ofText_eq_ok_iff, text, String.toList_ofList]
  exact d.indexed_textChars

/-- **What is printed is read back, and the reader takes the name of a kind, alone or with a colon and a
numeral behind it, and no other text.** -/
theorem text_forms_exactly :
    (∀ d : Device, ofText d.text = .ok d) ∧
      ∀ text : String,
        (∀ d, ofText text = .ok d ↔ Indexed d.kind.name.toList d.index text.toList) ∧
        (∀ f, ofText text = .error f ↔ Refused text f) ∧
        ∀ f, Refused text f → f.kind = .deviceError := by
  refine ⟨ofText_text, fun text => ⟨fun d => ofText_eq_ok_iff, fun f => ofText_eq_error_iff, ?_⟩⟩
  rintro f (_ | _) <;> rfl

/-- The least index of a kind whose name begins with that of another one. A zero may have signs and more
zeros; a second colon spoils the index, and an index that is no word is told before the name. -/
theorem text_forms_exactly_managed :
    let d : Device := ⟨.cudaManaged, Int32.minValue⟩
    d.text = "cuda_managed:-2147483648" ∧
      ofText d.text = .ok d ∧
      ofText "cpu:-00" = .ok cpu ∧
      ofText "cuda:1:2" = .error (.deviceRefused "cuda:1:2" "device index is not an integer") ∧
      ofText "tpu:2147483648" =
        .error (.deviceRefused "tpu:2147483648" "device index is not an integer") ∧
      ofText "cuda_" = .error (.deviceRefused "cuda_" "unknown device kind") ∧
      (Fault.deviceRefused "cuda_" "unknown device kind").kind = .deviceError := by
  intro d
  obtain ⟨printed, reads⟩ := text_forms_exactly
  have zero : Indexed DeviceKind.cpu.name.toList 0 "cpu:-00".toList :=
    @Indexed.colon _ ['-', '0', '0'] 0 (Decimal.signedWord?_eq_some_iff.1 (by decide))
  have spoiled (text : String) (name index : List Char) (cut : text.toList = name ++ ':' :: index)
      (first : ':' ∉ name) (unread : Decimal.signedWord? index = none) :
      ofText text = .error (.deviceRefused text "device index is not an integer") := by
    refine ((reads text).2.1 _).2 (.index cut first fun i number => ?_)
    rw [Decimal.signedWord?_eq_some_iff.2 number] at unread
    cases unread
  have unknown : Refused "cuda_" (.deviceRefused "cuda_" "unknown device kind") :=
    .kind .bare (by decide) fun k => by cases k <;> decide
  exact ⟨by decide, printed d, ((reads _).1 cpu).2 zero,
    spoiled _ "cuda".toList "1:2".toList (by decide) (by decide) (by decide),
    spoiled _ "tpu".toList "2147483648".toList (by decide) (by decide) (by decide),
    ((reads _).2.1 _).2 unknown, (reads _).2.2 _ unknown⟩

end Device

end SharedTensor
