import SharedTensor.Text.Unprintable

/-!
# Lists and quoted text as they are shown

The two shapes in which messages show values: a bracketed list of integers, and a text in double
quotes, in which quotes, backslashes and the characters without a printed form are escaped.
-/

namespace SharedTensor.Text

/-- A list of integers between brackets, such as `[2, 3]`. -/
def listing (xs : List Int64) : String :=
  "[" ++ ", ".intercalate (xs.map fun x => toString x.toInt) ++ "]"

/-- How a character stands inside a quoted text. One without a printed form is shown by its number
if there is no shorter way. -/
def quotedChar (c : Char) : String :=
  match c with
  | '"' => "\\\""
  | '\\' => "\\\\"
  | '\t' => "\\t"
  | '\n' => "\\n"
  | '\r' => "\\r"
  | _ =>
    if c.toNat = 0 then "\\0"
    else if isUnprintable c then
      "\\u\x7b" ++ String.ofList (Nat.toDigits 16 c.toNat) ++ "\x7d"
    else c.toString

/-- A text between double quotes. -/
def quoted (s : String) : String :=
  "\"" ++ String.join (s.toList.map quotedChar) ++ "\""

end SharedTensor.Text
