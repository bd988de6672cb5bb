import SharedTensor.Json.Token

/-!
# JSON values

A JSON value as the tree that its text shows: members of objects keep their order, also when a name
occurs twice, and numbers are told apart by whether they are written as integers. A tree is written
by way of its tokens (`Json.tokens`), either without blanks (`Json.compact`) or over several lines
(`Json.pretty`), and read back from them by a machine that keeps the open arrays and objects on a
stack (`Json.ofTokens?`).
-/

namespace SharedTensor

/-- A JSON value. -/
inductive Json
  | null
  | bool (value : Bool)
  | integer (value : Int)
  | real (value : Scientific)
  /-- A string; without a text if its escapes denote none. -/
  | text (value : Option String)
  | array (elements : List Json)
  /-- An object; its members in the order in which they are written. -/
  | object (members : List (Option String × Json))
  deriving Inhabited

namespace Json

/-! ## Writing -/

mutual

/-- The tokens of a value. -/
def tokens : Json → List Token
  | .null => [.null]
  | .bool b => [.bool b]
  | .integer i => [.integer i]
  | .real x => [.real x]
  | .text s => [.text s]
  | .array [] => [.openBracket, .closeBracket]
  | .array (x :: xs) => .openBracket :: tokens x ++ elementTokens xs
  | .object [] => [.openBrace, .closeBrace]
  | .object (m :: ms) => .openBrace :: memberTokens m ++ membersTokens ms

/-- The tokens of the elements after the first, up to the end of the array. -/
def elementTokens : List Json → List Token
  | [] => [.closeBracket]
  | x :: xs => .comma :: tokens x ++ elementTokens xs

/-- The tokens of a member. -/
def memberTokens : Option String × Json → List Token
  | (name, value) => .text name :: .colon :: tokens value

/-- The tokens of the members after the first, up to the end of the object. -/
def membersTokens : List (Option String × Json) → List Token
  | [] => [.closeBrace]
  | m :: ms => .comma :: memberTokens m ++ membersTokens ms

end

/-- The text of a value without blanks. -/
def compact (j : Json) : String :=
  String.ofList (j.tokens.flatMap Token.chars)

/-- The beginning of a line at the given depth: two blanks for each level. -/
def newline (depth : Nat) : List Char :=
  '\n' :: List.replicate (2 * depth) ' '

/-- Tokens over several lines: each element and each member has a line of its own, indented by the
depth at which it stands; an array or object without any stays on its line. -/
def lines : Nat → List Token → List Char
  | _, [] => []
  | depth, .openBrace :: .closeBrace :: r => '\x7b' :: '\x7d' :: lines depth r
  | depth, .openBracket :: .closeBracket :: r => '[' :: ']' :: lines depth r
  | depth, .openBrace :: r => '\x7b' :: newline (depth + 1) ++ lines (depth + 1) r
  | depth, .openBracket :: r => '[' :: newline (depth + 1) ++ lines (depth + 1) r
  | depth, .closeBrace :: r => newline (depth - 1) ++ '\x7d' :: lines (depth - 1) r
  | depth, .closeBracket :: r => newline (depth - 1) ++ ']' :: lines (depth - 1) r
  | depth, .comma :: r => ',' :: newline depth ++ lines depth r
  | depth, .colon :: r => ':' :: ' ' :: lines depth r
  | depth, t :: r => t.chars ++ lines depth r

/-- The text of a value over several lines. -/
def pretty (j : Json) : String :=
  String.ofList (lines 0 j.tokens)

/-! ## Reading -/

/-- An array or object that is still open. Lists are kept with the last item first. -/
inductive Frame
  | array (elements : List Json)
  /-- The value of the member `name` is being read. -/
  | object (members : List (Option String × Json)) (name : Option String)

/-- How far a value has been read. The open arrays and objects are given from the inside out. -/
inductive Reading
  /-- A value must follow. -/
  | value (frames : List Frame)
  /-- An array has just been opened. -/
  | opened (frames : List Frame)
  /-- A member must follow, or, if there is none yet, the end of the object. -/
  | member (frames : List Frame) (members : List (Option String × Json)) (first : Bool)
  /-- The name of a member has been read. -/
  | name (frames : List Frame) (members : List (Option String × Json)) (name : Option String)
  /-- A value has been read to its end. -/
  | complete (frames : List Frame) (value : Json)

namespace Reading

/-- Takes a token where a value must follow. -/
def startValue (frames : List Frame) : Token → Option Reading
  | .null => some (.complete frames .null)
  | .bool b => some (.complete frames (.bool b))
  | .integer i => some (.complete frames (.integer i))
  | .real x => some (.complete frames (.real x))
  | .text s => some (.complete frames (.text s))
  | .openBracket => some (.opened frames)
  | .openBrace => some (.member frames [] true)
  | _ => none

/-- Takes one token. -/
def take : Reading → Token → Option Reading
  | .value frames, t => startValue frames t
  | .opened frames, .closeBracket => some (.complete frames (.array []))
  | .opened frames, t => startValue (.array [] :: frames) t
  | .member frames _ true, .closeBrace => some (.complete frames (.object []))
  | .member frames members _, .text n => some (.name frames members n)
  | .name frames members n, .colon => some (.value (.object members n :: frames))
  | .complete (.array xs :: frames) v, .comma => some (.value (.array (v :: xs) :: frames))
  | .complete (.array xs :: frames) v, .closeBracket =>
    some (.complete frames (.array (v :: xs).reverse))
  | .complete (.object ms n :: frames) v, .comma => some (.member frames ((n, v) :: ms) false)
  | .complete (.object ms n :: frames) v, .closeBrace =>
    some (.complete frames (.object ((n, v) :: ms).reverse))
  | _, _ => none

/-- Takes tokens one after the other. -/
def takeAll : Reading → List Token → Option Reading
  | r, [] => some r
  | r, t :: ts => (r.take t).bind fun r => r.takeAll ts

/-- The value that has been read, if nothing is open. -/
def finish? : Reading → Option Json
  | .complete [] v => some v
  | _ => none

end Reading

/-- The value with the given tokens. -/
def ofTokens? (ts : List Token) : Option Json :=
  ((Reading.value []).takeAll ts).bind Reading.finish?

/-- The value that a text denotes. -/
def parse? (s : String) : Option Json :=
  (scan s.toList).bind ofTokens?

end Json

end SharedTensor
