import Mathlib.Data.List.Basic
import SharedTensor.Json.Token

/-!
# Scanning what was written

A text spells tokens if each of them is written out in its turn and only blanks stand around them
(`Spells`). Literals and numbers have no end of their own, so two of them must not follow each other.
A text that spells tokens is cut into exactly these tokens (`scan_of_spells`).

The end of a literal or number is noticed with the character behind it. What is carried along the text
is therefore not the state of the scan but what the scan comes to if the text ended there
(`Scanner.Rests`).
-/

namespace SharedTensor

namespace Decimal

theorem ofNat_eq_zero_iff {n : Nat} : ofNat n = ['0'] ↔ n = 0 := by
  constructor
  · intro h
    have same := digits?_ofNat n
    rw [h] at same
    exact (Option.some.inj same).symm
  · rintro rfl
    rfl

/-- No zero stands before another digit. -/
theorem ofNat_eq_zero_of_head {n : Nat} (h : (ofNat n).head? = some '0') : ofNat n = ['0'] := by
  induction n using Nat.strongRecOn with
  | ind n ih =>
    have digits := Nat.toDigits_eq_if (b := 10) (n := n) (by decide)
    rw [ofNat, digits] at h ⊢
    split
    · next small => simpa [if_pos small] using h
    · next large =>
      rw [if_neg large, List.head?_append_of_ne_nil (Nat.toDigits 10 (n / 10)) (ofNat_ne_nil (n / 10))] at h
      have quotient : n / 10 = 0 := ofNat_eq_zero_iff.1 (ih (n / 10) (by omega) h)
      omega

end Decimal

/-- The point and the digits after it, as they are written. -/
def Scientific.fractionChars : List (Fin 10) → List Char
  | [] => []
  | d :: ds => '.' :: (d :: ds).map fun d => Nat.digitChar d.val

namespace Json

open Decimal (ofNat ofInt)

/-! ## Numbers and literals -/

/-- Of digits and what stands behind them, the digits. -/
theorem takeWhile_isDigit {ds rest : List Char} (h : ∀ c ∈ ds, c.isDigit = true)
    (stop : ∀ c ∈ rest.head?, c.isDigit = false) : (ds ++ rest).takeWhile Char.isDigit = ds := by
  rw [List.takeWhile_append_of_pos h]
  cases rest with
  | nil => simp
  | cons c cs => simp [stop c rfl]

/-- Of digits and what stands behind them, what stands behind them. -/
theorem dropWhile_isDigit {ds rest : List Char} (h : ∀ c ∈ ds, c.isDigit = true)
    (stop : ∀ c ∈ rest.head?, c.isDigit = false) : (ds ++ rest).dropWhile Char.isDigit = rest := by
  rw [List.dropWhile_append_of_pos h]
  cases rest with
  | nil => rfl
  | cons c cs => simp [stop c rfl]

theorem digit_digitChar (d : Fin 10) :
    digit (Nat.digitChar d.val) = d ∧ (Nat.digitChar d.val).isDigit = true := by
  decide +revert

theorem isDigit_of_mem_digitChars {ds : List (Fin 10)} {c : Char}
    (h : c ∈ ds.map fun d => Nat.digitChar d.val) : c.isDigit = true := by
  obtain ⟨d, -, rfl⟩ := List.mem_map.1 h
  exact (digit_digitChar d).2

/-- A whole number is read up to the first character that is no digit. -/
theorem number?_ofNat (negative : Bool) (n : Nat) {rest : List Char}
    (stop : ∀ c ∈ rest.head?, c.isDigit = false) :
    number? negative (ofNat n ++ rest) =
      if rest = [] ∧ ¬(negative ∧ n = 0) then some (.integer (if negative then -n else n))
      else do
        let (fraction, rest) ← fractionPart? rest
        let exponent ← exponentPart? rest
        return .real ⟨negative, n, fraction.map digit, exponent⟩ := by
  have digits : ∀ c ∈ ofNat n, c.isDigit = true := fun _ => Decimal.isDigit_of_mem_ofNat
  have plain : ¬(ofNat n = [] ∨ ((ofNat n).head? = some '0' ∧ ofNat n ≠ ['0'])) := by
    rintro (none | ⟨zero, more⟩)
    · exact Decimal.ofNat_ne_nil n none
    · exact more (Decimal.ofNat_eq_zero_of_head zero)
  have value : Nat.ofDigitChars 10 (ofNat n) 0 = n := Nat.ofDigitChars_ten_toDigits
  simp only [number?, takeWhile_isDigit digits stop, dropWhile_isDigit digits stop, if_neg plain,
    value, Decimal.ofNat_eq_zero_iff]

theorem fractionPart?_fractionChars (ds : List (Fin 10)) {rest : List Char}
    (point : ∀ c ∈ rest.head?, c ≠ '.') (stop : ∀ c ∈ rest.head?, c.isDigit = false) :
    fractionPart? (Scientific.fractionChars ds ++ rest) =
      some (ds.map fun d => Nat.digitChar d.val, rest) := by
  cases ds with
  | nil =>
    simp only [Scientific.fractionChars, List.nil_append, List.map_nil]
    unfold fractionPart?
    split
    · exact absurd rfl (point '.' rfl)
    · rfl
  | cons d ds =>
    have digits : ∀ c ∈ (d :: ds).map fun d => Nat.digitChar d.val, c.isDigit = true :=
      fun _ => isDigit_of_mem_digitChars
    rw [Scientific.fractionChars, List.cons_append, fractionPart?, takeWhile_isDigit digits stop,
      dropWhile_isDigit digits stop]
    rfl

theorem chars_eq (x : Scientific) :
    x.chars = (if x.negative then ['-'] else []) ++
      (ofNat x.whole ++ (Scientific.fractionChars x.fraction ++ 'e' :: ofInt x.exponent)) := by
  obtain ⟨negative, whole, fraction, exponent⟩ := x
  cases fraction <;> simp [Scientific.chars, Scientific.fractionChars]

theorem number?_real (x : Scientific) :
    number? x.negative
      (ofNat x.whole ++ (Scientific.fractionChars x.fraction ++ 'e' :: ofInt x.exponent)) =
        some (.real x) := by
  obtain ⟨negative, whole, fraction, exponent⟩ := x
  have stop : ∀ c ∈ (Scientific.fractionChars fraction ++ 'e' :: ofInt exponent).head?,
      c.isDigit = false := by
    cases fraction <;> simp [Scientific.fractionChars]
  have more : ¬(Scientific.fractionChars fraction ++ 'e' :: ofInt exponent = [] ∧
      ¬(negative ∧ whole = 0)) := by
    simp
  rw [number?_ofNat _ _ stop, if_neg more,
    fractionPart?_fractionChars _ (by simp) (by simp)]
  simp [exponentPart?, Decimal.integer?_ofInt, Function.comp_def, digit_digitChar]

namespace Token

/-- Is the token a literal or a number, which ends only where something else begins? -/
def isBare : Token → Bool
  | .null | .bool _ | .integer _ | .real _ => true
  | _ => false

end Token

/-- A numeral without a sign is none of the literals and is read as a number. -/
theorem bareToken?_of_isDigit {cs : List Char} {c : Char} (h : cs.head? = some c)
    (hc : c.isDigit = true) : bareToken? cs = number? false cs := by
  obtain ⟨rest, rfl⟩ := List.head?_eq_some_iff.1 h
  have letters : c ≠ 'n' ∧ c ≠ 't' ∧ c ≠ 'f' ∧ c ≠ '-' := by
    refine ⟨?_, ?_, ?_, ?_⟩ <;> rintro rfl <;> exact absurd hc (by decide)
  unfold bareToken?
  simp [Token.chars, letters]

theorem head?_ofNat (n : Nat) (rest : List Char) :
    ∃ c, (ofNat n ++ rest).head? = some c ∧ c.isDigit = true := by
  cases hn : ofNat n with
  | nil => exact absurd hn (Decimal.ofNat_ne_nil n)
  | cons c cs => exact ⟨c, rfl, Decimal.isDigit_of_mem_ofNat (n := n) (by simp [hn])⟩

/-- A literal or number is read back from its characters. -/
theorem bareToken?_chars {t : Token} (h : t.isBare) : bareToken? t.chars = some t := by
  have nothing : ∀ c ∈ ([] : List Char).head?, c.isDigit = false := by simp
  cases t with
  | null => rfl
  | bool b => cases b <;> rfl
  | integer i =>
    cases i with
    | ofNat n =>
      obtain ⟨c, head, digit⟩ := head?_ofNat n []
      have read := number?_ofNat false n nothing
      rw [List.append_nil] at head read
      rw [Token.chars, ofInt, bareToken?_of_isDigit head digit, read]
      simp
    | negSucc n =>
      have read := number?_ofNat true (n + 1) nothing
      rw [List.append_nil] at read
      have step : bareToken? ('-' :: ofNat (n + 1)) = number? true (ofNat (n + 1)) := by
        simp [bareToken?, Token.chars]
      rw [Token.chars, ofInt, step, read]
      simp [Int.negSucc_eq]
  | real x =>
    have read := number?_real x
    rw [Token.chars, chars_eq]
    cases hs : x.negative with
    | false =>
      obtain ⟨c, head, digit⟩ := head?_ofNat x.whole
        (Scientific.fractionChars x.fraction ++ 'e' :: ofInt x.exponent)
      rw [hs] at read
      simpa [bareToken?_of_isDigit head digit] using read
    | true =>
      rw [hs] at read
      simpa [bareToken?, Token.chars] using read
  | _ => simp [Token.isBare] at h

/-! ## Strings -/

theorem hexValue?_hexDigit {n : Nat} (h : n < 16) : hexValue? (hexDigit n) = some n := by
  decide +revert

theorem isHighSurrogate_toNat (c : Char) : isHighSurrogate c.toNat = false := by
  have valid : c.toNat < 0xd800 ∨ 0xdfff < c.toNat ∧ c.toNat < 0x110000 := c.valid
  simp only [isHighSurrogate, Bool.and_eq_false_iff, decide_eq_false_iff_not]
  omega

theorem isLowSurrogate_toNat (c : Char) : isLowSurrogate c.toNat = false := by
  have valid : c.toNat < 0xd800 ∨ 0xdfff < c.toNat ∧ c.toNat < 0x110000 := c.valid
  simp only [isLowSurrogate, Bool.and_eq_false_iff, decide_eq_false_iff_not]
  omega

/-- The code points of characters denote these characters: none of them is a surrogate. -/
theorem textOf?_map_toNat : ∀ cs : List Char, textOf? (cs.map Char.toNat) = some cs
  | [] => rfl
  | [c] => by simp [textOf?, isHighSurrogate_toNat, isLowSurrogate_toNat]
  | c :: d :: cs => by
    have rest := textOf?_map_toNat (d :: cs)
    rw [List.map_cons] at rest
    simp [textOf?, isHighSurrogate_toNat, isLowSurrogate_toNat, rest]

namespace Scanner

theorem takeAll_append (s : Scanner) (cs ds : List Char) :
    s.takeAll (cs ++ ds) = (s.takeAll cs).bind fun s => s.takeAll ds := by
  induction cs generalizing s with
  | nil => rfl
  | cons c cs ih =>
    rw [List.cons_append, takeAll, takeAll, Option.bind_assoc]
    exact Option.bind_congr fun s _ => ih s

/-- A control character is written by its number, in two digits after two zeros. -/
theorem takeAll_control (ts : List Token) (points : List Nat) {n : Nat} (h : n < 0x20) :
    takeAll ⟨ts, .quoted points⟩ ['\\', 'u', '0', '0', hexDigit (n / 16), hexDigit (n % 16)] =
      some ⟨ts, .quoted (n :: points)⟩ := by
  have high := hexValue?_hexDigit (n := n / 16) (by omega)
  have low := hexValue?_hexDigit (n := n % 16) (by omega)
  have zero : hexValue? '0' = some 0 := rfl
  have value : n / 16 * 16 + n % 16 = n := Nat.div_add_mod' n 16
  simp [takeAll, take, high, low, zero, value]

/-- Inside a string a character is read back from how it stands there. -/
theorem takeAll_escaped (ts : List Token) (points : List Nat) (c : Char) :
    takeAll ⟨ts, .quoted points⟩ (escaped c) = some ⟨ts, .quoted (c.toNat :: points)⟩ := by
  unfold escaped
  split
  case h_8 quote backslash _ _ _ _ _ =>
    split
    · next control => exact takeAll_control ts points control
    · next plain =>
      simp [takeAll, take, plain, show c ≠ '"' from quote, show c ≠ '\\' from backslash]
  all_goals rfl

theorem takeAll_flatMap_escaped (ts : List Token) (cs : List Char) (points : List Nat) :
    takeAll ⟨ts, .quoted points⟩ (cs.flatMap escaped) =
      some ⟨ts, .quoted ((cs.map Char.toNat).reverse ++ points)⟩ := by
  induction cs generalizing points with
  | nil => rfl
  | cons c cs ih =>
    rw [List.flatMap_cons, takeAll_append, takeAll_escaped, Option.bind_some, ih]
    simp

/-! ## Scanners at rest -/

/-- The scan comes to the given tokens if the text ends here. -/
def Rests (s : Scanner) (ts : List Token) : Prop :=
  s.endBare = some ⟨ts, .between⟩

variable {s : Scanner} {ts : List Token}

theorem rests_between (ts : List Token) : Rests ⟨ts, .between⟩ ts := rfl

theorem Rests.finish? (h : s.Rests ts) : s.finish? = some ts.reverse := by
  rw [Scanner.finish?, h]
  rfl

/-- A scan that has come to tokens is outside of strings. -/
theorem Rests.take (h : s.Rests ts) (c : Char) : s.take c = s.takeOutside c := by
  obtain ⟨tokens, scan⟩ := s
  cases scan with
  | between => rfl
  | bare letters => rfl
  | quoted points => cases h
  | escape points => cases h
  | hex points missing value => cases h

theorem Rests.take_blank (h : s.Rests ts) {c : Char} (hc : isBlank c) :
    s.take c = some ⟨ts, .between⟩ := by
  rw [h.take, takeOutside, if_pos hc]
  exact h

theorem Rests.take_quote (h : s.Rests ts) : s.take '"' = some ⟨ts, .quoted []⟩ := by
  rw [h.take, takeOutside, if_neg (by decide), if_pos rfl, h]
  rfl

theorem Rests.take_punctuation (h : s.Rests ts) {c : Char} {t : Token}
    (hc : punctuation? c = some t) : s.take c = some ⟨t :: ts, .between⟩ := by
  have other : ¬isBlank c ∧ c ≠ '"' := by
    constructor <;> intro heq
    · simp only [isBlank, Bool.or_eq_true, decide_eq_true_eq] at heq
      rcases heq with ((rfl | rfl) | rfl) | rfl <;> cases hc
    · subst heq
      cases hc
  have ended : s.endBare = some ⟨ts, .between⟩ := h
  rw [h.take, takeOutside, if_neg other.1, if_neg other.2]
  simp only [hc, ended, Option.map_some]

/-- A string is read back from how it is written. -/
theorem Rests.takeAll_text (h : s.Rests ts) (value : Option String) :
    s.takeAll (Token.text value).chars = some ⟨.text value :: ts, .between⟩ := by
  cases value with
  | none =>
    rw [Token.chars, takeAll, h.take_quote]
    rfl
  | some v =>
    rw [Token.chars, List.cons_append, takeAll, h.take_quote, Option.bind_some, takeAll_append,
      takeAll_flatMap_escaped]
    simp [takeAll, Scanner.take, textOf?_map_toNat]

/-! ## Literals and numbers -/

/-- A character that goes on with a literal or number. -/
def isLetter (c : Char) : Bool :=
  !isBlank c && c ≠ '"' && (punctuation? c).isNone

theorem takeOutside_letter {c : Char} (hc : isLetter c) (s : Scanner) :
    s.takeOutside c = match s.scan with
      | .bare letters => some ⟨s.tokens, .bare (c :: letters)⟩
      | _ => some ⟨s.tokens, .bare [c]⟩ := by
  simp only [isLetter, Bool.and_eq_true, Bool.not_eq_true', decide_eq_true_eq,
    Option.isNone_iff_eq_none] at hc
  obtain ⟨⟨blank, quote⟩, mark⟩ := hc
  cases scan : s.scan <;> simp [takeOutside, blank, quote, mark, scan]

theorem takeAll_letters {cs : List Char} (h : ∀ c ∈ cs, isLetter c) (letters : List Char) :
    takeAll ⟨ts, .bare letters⟩ cs = some ⟨ts, .bare (cs.reverse ++ letters)⟩ := by
  induction cs generalizing letters with
  | nil => rfl
  | cons c cs ih =>
    obtain ⟨letter, rest⟩ := List.forall_mem_cons.1 h
    rw [takeAll, Scanner.take, takeOutside_letter letter, Option.bind_some, ih rest]
    simp

theorem isLetter_of_not_mem {c : Char}
    (h : c ∉ [' ', '\t', '\n', '\r', '"', '\x7b', '\x7d', '[', ']', ',', ':']) : isLetter c := by
  simp only [List.mem_cons, not_or] at h
  have mark : punctuation? c = none := by
    unfold punctuation?
    split <;> simp_all
  simp [isLetter, isBlank, mark, h]

theorem isLetter_of_isDigit {c : Char} (h : c.isDigit = true) : isLetter c := by
  refine isLetter_of_not_mem fun hmem => ?_
  have none : [' ', '\t', '\n', '\r', '"', '\x7b', '\x7d', '[', ']', ',', ':'].all
      (fun d => !d.isDigit) := by decide
  have noDigit := List.all_eq_true.1 none c hmem
  rw [h] at noDigit
  cases noDigit

theorem isLetter_of_mem_ofInt {i : Int} {c : Char} (h : c ∈ ofInt i) : isLetter c := by
  cases i with
  | ofNat n => exact isLetter_of_isDigit (Decimal.isDigit_of_mem_ofNat h)
  | negSucc n =>
    rcases List.mem_cons.1 h with rfl | hdigit
    · decide
    · exact isLetter_of_isDigit (Decimal.isDigit_of_mem_ofNat hdigit)

theorem isLetter_of_mem_fractionChars {ds : List (Fin 10)} {c : Char}
    (h : c ∈ Scientific.fractionChars ds) : isLetter c := by
  cases ds with
  | nil => cases h
  | cons d ds =>
    rcases List.mem_cons.1 h with rfl | hdigit
    · decide
    · exact isLetter_of_isDigit (isDigit_of_mem_digitChars hdigit)

theorem isLetter_of_mem_chars {t : Token} (h : t.isBare) {c : Char} (hc : c ∈ t.chars) :
    isLetter c := by
  cases t with
  | null =>
    have letters : Token.null.chars.all isLetter := by decide
    exact List.all_eq_true.1 letters c hc
  | bool b =>
    have letters : ∀ b, (Token.bool b).chars.all isLetter := by decide
    exact List.all_eq_true.1 (letters b) c hc
  | integer i => exact isLetter_of_mem_ofInt hc
  | real x =>
    rw [Token.chars, chars_eq] at hc
    simp only [List.mem_append, List.mem_cons] at hc
    rcases hc with sign | whole | fraction | rfl | exponent
    · split at sign
      · obtain rfl := List.mem_singleton.1 sign
        decide
      · cases sign
    · exact isLetter_of_isDigit (Decimal.isDigit_of_mem_ofNat whole)
    · exact isLetter_of_mem_fractionChars fraction
    · decide
    · exact isLetter_of_mem_ofInt exponent
  | _ => cases h

/-- After a literal or number the scan comes to it, although its end has not been seen. -/
theorem takeAll_bare {t : Token} (h : t.isBare) (ts : List Token) :
    ∃ s, takeAll ⟨ts, .between⟩ t.chars = some s ∧ s.Rests (t :: ts) := by
  have read := bareToken?_chars h
  have letters : ∀ c ∈ t.chars, isLetter c := fun _ => isLetter_of_mem_chars h
  cases hchars : t.chars with
  | nil =>
    rw [hchars] at read
    cases read
  | cons c cs =>
    rw [hchars] at read letters
    obtain ⟨letter, rest⟩ := List.forall_mem_cons.1 letters
    refine ⟨⟨ts, .bare (cs.reverse ++ [c])⟩, ?_, ?_⟩
    · rw [takeAll, Scanner.take, takeOutside_letter letter, Option.bind_some,
        takeAll_letters rest]
    · simp [Rests, endBare, read]

/-- After a token the scan comes to it; only the end of a literal or number is still open. -/
theorem Rests.takeAll_chars (h : s.Rests ts) (t : Token) (ready : t.isBare → s.scan = .between) :
    ∃ s', s.takeAll t.chars = some s' ∧ s'.Rests (t :: ts) ∧
      (¬t.isBare → s'.scan = .between) := by
  by_cases bare : t.isBare
  · obtain ⟨tokens, scan⟩ := s
    obtain rfl : scan = .between := ready bare
    obtain rfl : tokens = ts := congrArg Scanner.tokens (Option.some.inj h)
    obtain ⟨s', taken, rests⟩ := takeAll_bare bare tokens
    exact ⟨s', taken, rests, fun other => absurd bare other⟩
  · refine ⟨⟨t :: ts, .between⟩, ?_, rfl, fun _ => rfl⟩
    have mark {c : Char} (hc : punctuation? c = some t) : s.takeAll [c] = some ⟨t :: ts, .between⟩ := by
      rw [takeAll, h.take_punctuation hc]
      rfl
    cases t with
    | text value => exact h.takeAll_text value
    | openBrace | closeBrace | openBracket | closeBracket | comma | colon => exact mark rfl
    | _ => exact absurd rfl bare

end Scanner

/-! ## Texts that spell tokens -/

/-- The text consists of the given tokens, written out in this order, and blanks. -/
inductive Spells : List Token → List Char → Prop
  | nil : Spells [] []
  | blank {ts cs} (c : Char) : isBlank c → Spells ts cs → Spells ts (c :: cs)
  | token {ts cs} (t : Token) : (∀ u ∈ ts.head?, t.isBare → ¬u.isBare) → Spells ts cs →
      Spells (t :: ts) (t.chars ++ cs)

theorem Scanner.Rests.takeAll_spelled {ts : List Token} {cs : List Char} (h : Spells ts cs)
    {s : Scanner} {before : List Token} (rests : s.Rests before)
    (ready : ∀ t ∈ ts.head?, t.isBare → s.scan = .between) :
    ∃ s', s.takeAll cs = some s' ∧ s'.Rests (ts.reverse ++ before) := by
  induction h generalizing s before with
  | nil => exact ⟨s, rfl, rests⟩
  | blank c hc _ ih =>
    obtain ⟨s', taken, rests'⟩ := ih (rests_between before) fun _ _ _ => rfl
    exact ⟨s', by rw [takeAll, rests.take_blank hc, Option.bind_some, taken], rests'⟩
  | token t apart _ ih =>
    obtain ⟨s₁, taken₁, rests₁, between⟩ := rests.takeAll_chars t (ready t rfl)
    obtain ⟨s₂, taken₂, rests₂⟩ := ih rests₁ fun u hu bare =>
      between fun first => apart u hu first bare
    refine ⟨s₂, by rw [takeAll_append, taken₁, Option.bind_some, taken₂], ?_⟩
    simpa using rests₂

/-- A text is cut into the tokens that it spells. -/
theorem scan_of_spells {ts : List Token} {cs : List Char} (h : Spells ts cs) :
    scan cs = some ts := by
  obtain ⟨s, taken, rests⟩ := (Scanner.rests_between []).takeAll_spelled h fun _ _ _ => rfl
  rw [scan, Scanner.start, taken, Option.bind_some, rests.finish?]
  simp

end Json

end SharedTensor
