import SharedTensor.Fault

/-!
# Reading element types

Element types are read from two notations: their own names, such as `float32` or `uint8x4`, and the
type strings that arrays are described with, such as `<f4` or `|u1`. They also come as the three
numbers of an interchange record.
-/

namespace SharedTensor.ElementType

/-- What is left of a text after the given beginning, if it begins so. -/
def afterWord : List Char → List Char → Option (List Char)
  | [], cs => some cs
  | _ :: _, [] => none
  | w :: ws, c :: cs => if w = c then afterWord ws cs else none

/-- A text cut at its last `x`, provided that a digit stands before it: the part before the cut, and
the part after it if there is a cut. -/
def cutLanes (cs : List Char) : List Char × Option (List Char) :=
  let tail := cs.reverse.takeWhile (· ≠ 'x')
  match cs.reverse.dropWhile (· ≠ 'x') with
  | _ :: digit :: rest =>
    if digit.isDigit then ((digit :: rest).reverse, some tail.reverse) else (cs, none)
  | _ => (cs, none)

/-- The kind and the width that a name without lanes denotes. -/
def base? (cs : List Char) : Option (ElementKind × UInt8) :=
  if cs = "bool".toList then some (.bool, 8)
  else
    (ElementKind.all.findSome? fun k => (afterWord k.word.toList cs).map (k, ·)).bind
      fun (k, digits) => (Decimal.byte? digits).map (k, ·)

/-- The type with the given name. -/
def ofNameChars? (cs : List Char) : Option ElementType := do
  let (base, lanes) := cutLanes cs
  let lanes ← lanes.elim (some 1) Decimal.halfword?
  let (kind, bits) ← base? base
  return ⟨kind, bits, lanes⟩

/-- The type with the given name. -/
def ofName (text : String) : Except Fault ElementType :=
  match ofNameChars? text.toList with
  | some t => .ok t
  | none => .error (.unknownElementType text)

/-- The kinds that a type string can name. -/
def typeStringKind? : Char → Option ElementKind
  | 'f' => some .float
  | 'i' => some .int
  | 'u' => some .uint
  | 'b' => some .bool
  | 'c' => some .complex
  | _ => none

/-- Byte orders under which a value needs no rearrangement: the machine's own, which is
little-endian, and those that do not say. -/
def isNativeOrder (c : Char) : Bool :=
  c = '|' || c = '=' || c = '<'

/-- The type that a type string denotes: a byte order, a kind, and the bytes of one element. The
count of bytes is looked at first, then the order, then the kind, and the width last. -/
def ofTypeString (text : String) : Except Fault ElementType :=
  let order := text.toList.head?
  let kind := (text.toList.drop 1).head?
  match Decimal.halfword? (text.toList.drop 2) with
  | none => .error (.malformedTypeString text)
  | some bytes =>
    if !order.any isNativeOrder then .error (.foreignByteOrder text)
    else
      match kind.bind typeStringKind? with
      | none => .error (.unsupportedTypeString text)
      | some k =>
        if bytes.toNat * 8 < UInt8.size then .ok (scalar k (UInt8.ofNat (bytes.toNat * 8)))
        else .error (.elementTooWide text)

/-- The kind with the given code. -/
def kindOfCode (code : UInt8) : Except Fault ElementKind :=
  match ElementKind.ofCode? code with
  | some k => .ok k
  | none => .error (.unknownElementCode code)

end SharedTensor.ElementType
