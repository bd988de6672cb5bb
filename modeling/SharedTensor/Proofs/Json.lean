import SharedTensor.Json
import SharedTensor.Proofs.Json.Token

/-!
# Reading back what was written

A value is read back from its tokens (`ofTokens?_tokens`), and so from every text that spells them,
whichever way it is laid out (`parse?_of_spells`): without blanks (`parse?_compact`) or over several
lines (`parse?_pretty`). That these texts spell the tokens needs no look at the value: literals and
numbers never follow each other in tokens that can be read at all (`Reading.apart`).
-/

namespace SharedTensor.Json

namespace Reading

/-! ## Tokens -/

/-- A value that follows an open bracket is the first element. -/
theorem takeAll_opened (frames : List Frame) (j : Json) (rest : List Token) :
    (Reading.opened frames).takeAll (j.tokens ++ rest) =
      (Reading.value (.array [] :: frames)).takeAll (j.tokens ++ rest) := by
  cases j with
  | array elements => cases elements <;> rfl
  | object members => cases members <;> rfl
  | _ => rfl

mutual

/-- Where a value must follow, its tokens bring it. -/
theorem takeAll_tokens : ∀ (j : Json) (frames : List Frame) (rest : List Token),
    (Reading.value frames).takeAll (j.tokens ++ rest) = (Reading.complete frames j).takeAll rest
  | .null, _, _ => rfl
  | .bool _, _, _ => rfl
  | .integer _, _, _ => rfl
  | .real _, _, _ => rfl
  | .text _, _, _ => rfl
  | .array [], _, _ => rfl
  | .array (x :: xs), frames, rest => by
    show (Reading.opened frames).takeAll (x.tokens ++ elementTokens xs ++ rest) = _
    rw [List.append_assoc, takeAll_opened, takeAll_tokens x, takeAll_elementTokens xs]
    rfl
  | .object [], _, _ => rfl
  | .object (m :: ms), frames, rest => by
    show (Reading.member frames [] true).takeAll (memberTokens m ++ membersTokens ms ++ rest) = _
    rw [List.append_assoc, takeAll_memberTokens m, takeAll_membersTokens ms]
    rfl

/-- The elements after the first, and the end of the array. -/
theorem takeAll_elementTokens : ∀ (ys xs : List Json) (v : Json) (frames : List Frame)
    (rest : List Token),
    (Reading.complete (.array xs :: frames) v).takeAll (elementTokens ys ++ rest) =
      (Reading.complete frames (.array ((v :: xs).reverse ++ ys))).takeAll rest
  | [], xs, v, frames, rest => by
    rw [List.append_nil]
    rfl
  | y :: ys, xs, v, frames, rest => by
    show (Reading.value (.array (v :: xs) :: frames)).takeAll (y.tokens ++ elementTokens ys ++ rest) = _
    rw [List.append_assoc, takeAll_tokens y, takeAll_elementTokens ys, List.reverse_cons,
      List.append_assoc, List.singleton_append]

/-- A member: its name, and its value with the object still open. -/
theorem takeAll_memberTokens : ∀ (m : Option String × Json) (frames : List Frame)
    (members : List (Option String × Json)) (first : Bool) (rest : List Token),
    (Reading.member frames members first).takeAll (memberTokens m ++ rest) =
      (Reading.complete (.object members m.1 :: frames) m.2).takeAll rest
  | (n, v), frames, members, first, rest => by
    cases first <;> exact takeAll_tokens v (.object members n :: frames) rest

/-- The members after the first, and the end of the object. -/
theorem takeAll_membersTokens : ∀ (ms members : List (Option String × Json)) (n : Option String)
    (v : Json) (frames : List Frame) (rest : List Token),
    (Reading.complete (.object members n :: frames) v).takeAll (membersTokens ms ++ rest) =
      (Reading.complete frames (.object (((n, v) :: members).reverse ++ ms))).takeAll rest
  | [], members, n, v, frames, rest => by
    rw [List.append_nil]
    rfl
  | m :: ms, members, n, v, frames, rest => by
    show (Reading.member frames ((n, v) :: members) false).takeAll
      (memberTokens m ++ membersTokens ms ++ rest) = _
    rw [List.append_assoc, takeAll_memberTokens m, takeAll_membersTokens ms, List.reverse_cons,
      List.append_assoc, List.singleton_append]

end

/-! ## Literals and numbers do not touch -/

/-- A literal or number is a value of its own. -/
theorem exists_complete_of_isBare {r r' : Reading} {t : Token} (bare : t.isBare)
    (h : r.take t = some r') : ∃ frames v, r' = .complete frames v := by
  cases t with
  | null | bool b | integer i | real x =>
    cases r with
    | value frames | opened frames => exact ⟨_, _, (Option.some.inj h).symm⟩
    | member frames members first => cases first <;> cases h
    | name frames members n => cases h
    | complete frames v => rcases frames with _ | ⟨_ | _, frames⟩ <;> cases h
  | _ => cases bare

/-- After a value something else must come. -/
theorem not_isBare_of_complete {frames : List Frame} {v : Json} {t : Token} {r' : Reading}
    (h : (Reading.complete frames v).take t = some r') : ¬t.isBare := by
  intro bare
  cases t with
  | null | bool b | integer i | real x => rcases frames with _ | ⟨_ | _, frames⟩ <;> cases h
  | _ => cases bare

/-- In tokens that can be read, no literal or number follows another one. -/
theorem apart {r r₁ r₂ : Reading} {t : Token} {ts : List Token} (h : r.take t = some r₁)
    (rest : r₁.takeAll ts = some r₂) : ∀ u ∈ ts.head?, t.isBare → ¬u.isBare := by
  intro u hu bare
  obtain ⟨frames, v, rfl⟩ := exists_complete_of_isBare bare h
  cases ts with
  | nil => cases hu
  | cons t' ts =>
    obtain rfl : t' = u := Option.some.inj hu
    obtain ⟨r', taken, -⟩ := Option.bind_eq_some_iff.1 rest
    exact not_isBare_of_complete taken

end Reading

theorem takeAll_tokens_nil (j : Json) :
    (Reading.value []).takeAll j.tokens = some (.complete [] j) := by
  have taken := Reading.takeAll_tokens j [] []
  rw [List.append_nil] at taken
  exact taken

/-- A value is read back from its tokens. -/
theorem ofTokens?_tokens (j : Json) : ofTokens? j.tokens = some j := by
  rw [ofTokens?, takeAll_tokens_nil]
  rfl

/-- A value is read back from every text that spells its tokens. -/
theorem parse?_of_spells {j : Json} {text : String} (h : Spells j.tokens text.toList) :
    parse? text = some j := by
  rw [parse?, scan_of_spells h, Option.bind_some, ofTokens?_tokens]

theorem Reading.spells_cons {r r' : Reading} {t : Token} {ts : List Token} {cs : List Char}
    (h : r.takeAll (t :: ts) = some r')
    (rest : ∀ {r₁ : Reading}, r₁.takeAll ts = some r' → Spells ts cs) :
    Spells (t :: ts) (t.chars ++ cs) := by
  obtain ⟨r₁, taken, after⟩ := Option.bind_eq_some_iff.1 h
  exact .token t (apart taken after) (rest after)

/-! ## No blanks -/

/-- Tokens that can be read are spelled by writing out one after the other. -/
theorem Reading.spells_flatMap {r r' : Reading} {ts : List Token} (h : r.takeAll ts = some r') :
    Spells ts (ts.flatMap Token.chars) := by
  induction ts generalizing r with
  | nil => exact .nil
  | cons t ts ih => exact spells_cons h ih

theorem spells_compact (j : Json) : Spells j.tokens j.compact.toList := by
  rw [compact, String.toList_ofList]
  exact Reading.spells_flatMap (takeAll_tokens_nil j)

/-- A value is read back from its text without blanks. -/
theorem parse?_compact (j : Json) : parse? j.compact = some j :=
  parse?_of_spells (spells_compact j)

/-! ## Lines -/

theorem Spells.blanks {ts : List Token} {cs : List Char} (h : Spells ts cs) {blanks : List Char}
    (hb : ∀ c ∈ blanks, isBlank c) : Spells ts (blanks ++ cs) := by
  induction blanks with
  | nil => exact h
  | cons c blanks ih =>
    obtain ⟨hc, rest⟩ := List.forall_mem_cons.1 hb
    exact .blank c hc (ih rest)

theorem isBlank_of_mem_newline {depth : Nat} {c : Char} (h : c ∈ newline depth) : isBlank c := by
  rcases List.mem_cons.1 h with rfl | hspace
  · rfl
  · rw [List.eq_of_mem_replicate hspace]
    rfl

/-- Tokens that can be read are spelled by their lines, whatever the depth. -/
theorem Reading.spells_lines {r r' : Reading} {depth : Nat} {ts : List Token}
    (h : r.takeAll ts = some r') : Spells ts (lines depth ts) := by
  fun_induction lines depth ts generalizing r with
  | case1 => exact .nil
  | case2 depth rest ih | case3 depth rest ih =>
    -- an empty object or array stays on its line
    exact spells_cons h fun h => spells_cons h ih
  | case4 depth rest _ ih | case5 depth rest _ ih =>
    exact spells_cons h fun h => (ih h).blanks fun _ => isBlank_of_mem_newline
  | case6 depth rest ih | case7 depth rest ih =>
    exact (spells_cons h ih).blanks fun _ => isBlank_of_mem_newline
  | case8 depth rest ih => exact spells_cons h fun h => (ih h).blanks fun _ => isBlank_of_mem_newline
  | case9 depth rest ih => exact spells_cons h fun h => .blank ' ' rfl (ih h)
  | case10 depth t rest _ _ _ _ _ _ _ _ ih => exact spells_cons h ih

theorem spells_pretty (j : Json) : Spells j.tokens j.pretty.toList := by
  rw [pretty, String.toList_ofList]
  exact Reading.spells_lines (takeAll_tokens_nil j)

/-- A value is read back from its text over several lines. -/
theorem parse?_pretty (j : Json) : parse? j.pretty = some j :=
  parse?_of_spells (spells_pretty j)

end SharedTensor.Json
