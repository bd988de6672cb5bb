import SharedTensor.Text.Listing

/-!
# Context of an operation

What can be said about the circumstances in which an operation failed, and how it is said.
-/

namespace SharedTensor

/-- The circumstances of an operation. -/
structure OperationContext where
  operation : String
  /-- The shapes that took part, in the order in which they were given. -/
  shapes : List (List Int64) := []
  /-- The device that took part; empty if there is nothing to say. -/
  device : String := ""
  suggestions : List String := []
  deriving DecidableEq, Inhabited

namespace OperationContext

def withShape (c : OperationContext) (shape : List Int64) : OperationContext :=
  { c with shapes := c.shapes ++ [shape] }

def withDevice (c : OperationContext) (device : String) : OperationContext :=
  { c with device := device }

def withSuggestion (c : OperationContext) (suggestion : String) : OperationContext :=
  { c with suggestions := c.suggestions ++ [suggestion] }

/-- One line for the operation, the shapes and the device, as far as they are known, and one for
each suggestion. -/
def message (c : OperationContext) : String :=
  "Operation: " ++ c.operation ++
    (if c.shapes = [] then ""
      else "\nTensor shapes: " ++ ", ".intercalate (c.shapes.map Text.listing)) ++
    (if c.device = "" then "" else "\nDevice: " ++ c.device) ++
    (if c.suggestions = [] then ""
      else "\nSuggestions:" ++ String.join (c.suggestions.map ("\n  - " ++ ·)))

end OperationContext

end SharedTensor
