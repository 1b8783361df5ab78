import PassageMarkup.Json.Basic
import PassageMarkup.Token.Basic

/-!
# Trees as JSON

A token becomes an object: its kind, range and text, its inner text unless that is empty, its
children, its place, and the fields that are set.
-/

namespace PassageMarkup

namespace Fields

/-- The members of the fields that are set. -/
def toMembers (fields : Fields) : List (Text × Json) :=
  let member (key : String) (value : Option Json) : List (Text × Json) :=
    (value.map fun value => (key.toList, value)).toList
  member "name" (fields.name.map .string) ++
  member "value" (fields.value.map .number) ++
  member "colour" (fields.colour.map .string) ++
  member "operator" (fields.operator.map .string) ++
  member "depth" (fields.depth.map .natural) ++
  member "message" (fields.message.map .string) ++
  member "passage" (fields.passage.map .string) ++
  member "align" (fields.align.map .string) ++
  member "column" (fields.column.map .string) ++
  member "width" (fields.width.map .natural)

end Fields

namespace Token

mutual

/-- The object of a tree. -/
def toJson : Token → Json
  | ⟨kind, start, stop, text, inner, children, place, fields, _⟩ =>
    .object
      ([("type".toList, .string kind.camelName.toList),
          ("start".toList, .natural start),
          ("end".toList, .natural stop),
          ("text".toList, .string text)] ++
        (if inner.isEmpty then [] else [("innerText".toList, .string inner)]) ++
        [("children".toList, .array (toJsonList children)),
          ("place".toList, .string place)] ++
        fields.toMembers)

/-- The objects of a list of trees. -/
def toJsonList : List Token → List Json
  | [] => []
  | token :: rest => token.toJson :: toJsonList rest

end

end Token

end PassageMarkup
