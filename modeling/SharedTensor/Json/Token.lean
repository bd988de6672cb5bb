import SharedTensor.Text.Scientific

/-!
# JSON tokens

The words of JSON text: punctuation, literals, numbers and strings. `Token.chars` writes one of them
and `scan` cuts a text into them, leaving out the blanks between. A number is an integer if it is
written without fraction and exponent and is not a negative zero. A string whose escapes denote no
text, because half of a surrogate pair stands alone, is a token all the same, without a text.
-/

namespace SharedTensor.Json

/-- A word of JSON text. -/
inductive Token
  | openBrace
  | closeBrace
  | openBracket
  | closeBracket
  | comma
  | colon
  | null
  | bool (value : Bool)
  | integer (value : Int)
  | real (value : Scientific)
  | text (value : Option String)
  deriving DecidableEq, Inhabited

/-! ## Writing -/

/-- The digit for a number below sixteen. -/
def hexDigit (n : Nat) : Char :=
  Nat.digitChar n

/-- A character as it stands inside a string. -/
def escaped (c : Char) : List Char :=
  match c with
  | '"' => ['\\', '"']
  | '\\' => ['\\', '\\']
  | '\n' => ['\\', 'n']
  | '\r' => ['\\', 'r']
  | '\t' => ['\\', 't']
  | '\x08' => ['\\', 'b']
  | '\x0c' => ['\\', 'f']
  | _ =>
    if c.toNat < 0x20 then
      ['\\', 'u', '0', '0', hexDigit (c.toNat / 16), hexDigit (c.toNat % 16)]
    else [c]

/-- The characters of a token. -/
def Token.chars : Token → List Char
  | openBrace => ['\x7b']
  | closeBrace => ['\x7d']
  | openBracket => ['[']
  | closeBracket => [']']
  | comma => [',']
  | colon => [':']
  | null => ['n', 'u', 'l', 'l']
  | bool true => ['t', 'r', 'u', 'e']
  | bool false => ['f', 'a', 'l', 's', 'e']
  | integer i => Decimal.ofInt i
  | real x => x.chars
  | text (some s) => '"' :: s.toList.flatMap escaped ++ ['"']
  | text none => ['"', '\\', 'u', 'd', '8', '0', '0', '"']

/-! ## Numbers and literals -/

/-- The digits after a decimal point, of which there must be at least one, and what follows them.
Without a point there are none. -/
def fractionPart? (cs : List Char) : Option (List Char × List Char) :=
  match cs with
  | '.' :: r =>
    if r.takeWhile Char.isDigit = [] then none
    else some (r.takeWhile Char.isDigit, r.dropWhile Char.isDigit)
  | _ => some ([], cs)

/-- The value of the exponent that makes up the rest of a number. Without one it is zero. -/
def exponentPart? : List Char → Option Int
  | [] => some 0
  | 'e' :: r | 'E' :: r => Decimal.integer? r
  | _ => none

/-- The value of a decimal digit. -/
def digit (c : Char) : Fin 10 :=
  Fin.ofNat 10 (c.toNat - '0'.toNat)

/-- The number that is written as `cs` after its sign. -/
def number? (negative : Bool) (cs : List Char) : Option Token :=
  let whole := cs.takeWhile Char.isDigit
  let rest := cs.dropWhile Char.isDigit
  let value := Nat.ofDigitChars 10 whole 0
  if whole = [] ∨ (whole.head? = some '0' ∧ whole ≠ ['0']) then none
  else if rest = [] ∧ ¬(negative ∧ whole = ['0']) then
    some (.integer (if negative then -value else value))
  else do
    let (fraction, rest) ← fractionPart? rest
    let exponent ← exponentPart? rest
    return .real ⟨negative, value, fraction.map digit, exponent⟩

/-- The token made of characters other than punctuation, blanks and quotes. -/
def bareToken? (cs : List Char) : Option Token :=
  if cs = Token.null.chars then some .null
  else if cs = (Token.bool true).chars then some (.bool true)
  else if cs = (Token.bool false).chars then some (.bool false)
  else
    match cs with
    | '-' :: r => number? true r
    | _ => number? false cs

/-! ## Strings -/

/-- The first half of a pair of surrogates. -/
def isHighSurrogate (n : Nat) : Bool := 0xd800 ≤ n && n ≤ 0xdbff

/-- The second half of a pair of surrogates. -/
def isLowSurrogate (n : Nat) : Bool := 0xdc00 ≤ n && n ≤ 0xdfff

/-- The text that a list of code points denotes in which pairs of surrogates stand for one
character. A surrogate outside a pair denotes nothing. -/
def textOf? : List Nat → Option (List Char)
  | [] => some []
  | [n] => if isHighSurrogate n || isLowSurrogate n then none else some [Char.ofNat n]
  | n :: m :: r =>
    if isHighSurrogate n then
      if isLowSurrogate m then
        (textOf? r).map (Char.ofNat (0x10000 + (n - 0xd800) * 0x400 + (m - 0xdc00)) :: ·)
      else none
    else if isLowSurrogate n then none
    else (textOf? (m :: r)).map (Char.ofNat n :: ·)

/-- What the character after a backslash stands for, other than `u`. -/
def unescaped? : Char → Option Char
  | '"' => some '"'
  | '\\' => some '\\'
  | '/' => some '/'
  | 'b' => some '\x08'
  | 'f' => some '\x0c'
  | 'n' => some '\n'
  | 'r' => some '\r'
  | 't' => some '\t'
  | _ => none

/-- The value of a hexadecimal digit. -/
def hexValue? (c : Char) : Option Nat :=
  if c.isDigit then some (c.toNat - '0'.toNat)
  else if 'a' ≤ c ∧ c ≤ 'f' then some (c.toNat - 'a'.toNat + 10)
  else if 'A' ≤ c ∧ c ≤ 'F' then some (c.toNat - 'A'.toNat + 10)
  else none

/-! ## Scanning -/

/-- Where a scan stands. Lists are kept with the last item first. -/
inductive Scan
  /-- Between two tokens. -/
  | between
  /-- Inside a literal or a number. -/
  | bare (letters : List Char)
  /-- Inside a string, with the code points so far. -/
  | quoted (points : List Nat)
  /-- Inside a string, after a backslash. -/
  | escape (points : List Nat)
  /-- Inside a numeric escape that needs `missing` more digits. -/
  | hex (points : List Nat) (missing value : Nat)

/-- A scan under way: the tokens read, the last one first, and where it stands. -/
structure Scanner where
  tokens : List Token
  scan : Scan

/-- Characters that may stand between tokens. -/
def isBlank (c : Char) : Bool :=
  c = ' ' || c = '\t' || c = '\n' || c = '\r'

/-- The tokens of one character. -/
def punctuation? : Char → Option Token
  | '\x7b' => some .openBrace
  | '\x7d' => some .closeBrace
  | '[' => some .openBracket
  | ']' => some .closeBracket
  | ',' => some .comma
  | ':' => some .colon
  | _ => none

namespace Scanner

/-- Nothing read yet. -/
def start : Scanner := ⟨[], .between⟩

/-- Ends a literal or number, if the scan is inside one. -/
def endBare (s : Scanner) : Option Scanner :=
  match s.scan with
  | .bare letters => (bareToken? letters.reverse).map fun t => ⟨t :: s.tokens, .between⟩
  | _ => some s

/-- Takes a character outside of strings. -/
def takeOutside (s : Scanner) (c : Char) : Option Scanner :=
  if isBlank c then s.endBare
  else if c = '"' then s.endBare.map fun s => ⟨s.tokens, .quoted []⟩
  else
    match punctuation? c with
    | some t => s.endBare.map fun s => ⟨t :: s.tokens, .between⟩
    | none =>
      match s.scan with
      | .bare letters => some ⟨s.tokens, .bare (c :: letters)⟩
      | _ => some ⟨s.tokens, .bare [c]⟩

/-- Takes one character. -/
def take (s : Scanner) (c : Char) : Option Scanner :=
  match s.scan with
  | .between | .bare _ => s.takeOutside c
  | .quoted points =>
    if c = '"' then
      some ⟨.text ((textOf? points.reverse).map String.ofList) :: s.tokens, .between⟩
    else if c = '\\' then some ⟨s.tokens, .escape points⟩
    else if c.toNat < 0x20 then none
    else some ⟨s.tokens, .quoted (c.toNat :: points)⟩
  | .escape points =>
    if c = 'u' then some ⟨s.tokens, .hex points 4 0⟩
    else (unescaped? c).map fun c => ⟨s.tokens, .quoted (c.toNat :: points)⟩
  | .hex points missing value =>
    (hexValue? c).map fun d =>
      if missing ≤ 1 then ⟨s.tokens, .quoted ((value * 16 + d) :: points)⟩
      else ⟨s.tokens, .hex points (missing - 1) (value * 16 + d)⟩

/-- Takes characters one after the other. -/
def takeAll : Scanner → List Char → Option Scanner
  | s, [] => some s
  | s, c :: cs => (s.take c).bind fun s => s.takeAll cs

/-- The tokens at the end of a text, unless a string is still open. -/
def finish? (s : Scanner) : Option (List Token) :=
  s.endBare.bind fun s =>
    match s.scan with
    | .between => some s.tokens.reverse
    | _ => none

end Scanner

/-- The tokens of a text. -/
def scan (cs : List Char) : Option (List Token) :=
  (Scanner.start.takeAll cs).bind Scanner.finish?

end SharedTensor.Json
