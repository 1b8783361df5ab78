import PassageMarkup.Binary64.Basic
import PassageMarkup.Text.Basic

/-!
# Fields

What a token says beyond its kind and text.  Each kind fills in the fields that it needs.
-/

namespace PassageMarkup

/-- The payload of a token. -/
structure Fields where
  name : Option Text := none
  value : Option Binary64 := none
  colour : Option Text := none
  operator : Option Text := none
  depth : Option Nat := none
  message : Option Text := none
  passage : Option Text := none
  align : Option Text := none
  column : Option Text := none
  width : Option Nat := none
deriving DecidableEq, Repr

namespace Fields

/-- Takes from `other` every field that is missing. -/
def mergeMissing (fields other : Fields) : Fields where
  name := fields.name <|> other.name
  value := fields.value <|> other.value
  colour := fields.colour <|> other.colour
  operator := fields.operator <|> other.operator
  depth := fields.depth <|> other.depth
  message := fields.message <|> other.message
  passage := fields.passage <|> other.passage
  align := fields.align <|> other.align
  column := fields.column <|> other.column
  width := fields.width <|> other.width

/-- Equality with values compared as numbers. -/
def numericEq (fields other : Fields) : Bool :=
  let valuesAgree :=
    match fields.value, other.value with
    | none, none => true
    | some x, some y => x.numericEq y
    | _, _ => false
  valuesAgree && decide ({ fields with value := none } = { other with value := none })

end Fields

end PassageMarkup
