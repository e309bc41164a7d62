import QuerySynth.Parameter.Basic
import QuerySynth.Text.Pieces

/-! # List-shaped parameters

An array schema becomes a text schema with a pattern for comma-separated lists, and the element
type is recovered from that pattern.
-/

namespace QuerySynth

namespace ListElement

def all : List ListElement := [.unsigned, .signed, .float, .string]

/-- The pattern of a comma-separated list of elements. -/
def pattern : ListElement → String
  | .unsigned => "^\\d+(,\\d+)*$"
  | .signed => "^-?\\d+(,-?\\d+)*$"
  | .float => "^-?\\d+(\\.\\d+)?(,-?\\d+(\\.\\d+)?)*$"
  | .string => "^[^,]+(,[^,]+)*$"

/-- The element type whose pattern this is. -/
def ofPattern? (text : String) : Option ListElement :=
  all.find? fun element => element.pattern == text

/-- Whether a number is zero or above. -/
def isNonNegative : Document → Bool
  | .int value => 0 ≤ value
  | .float value => value.isNonNegative
  | _ => false

/-- The element type of an item schema. -/
def ofItems (items : Document) : ListElement :=
  let type := (items.textAt? "type").getD "string"
  let format := (items.textAt? "format").getD ""
  if type = "integer" then
    if (Text.dropStem? "uint".toList format.toList).isSome ||
        (items.get? "minimum").any isNonNegative then .unsigned
    else .signed
  else if type = "number" then .float
  else .string

end ListElement

namespace Document

def isArraySchema (schema : Document) : Bool :=
  schema.textAt? "type" == some "array"

/-- The text schema of a list of elements. -/
def listSchema (element : ListElement) : Document :=
  .obj [("pattern", .str element.pattern), ("type", .str "string")]

/-- The text schema that takes the place of an array schema, with its element type. -/
def coerceList? (schema : Document) : Option (Document × ListElement) :=
  if schema.isArraySchema then
    let element := ((schema.get? "items").map ListElement.ofItems).getD .string
    some (listSchema element, element)
  else none

end Document

end QuerySynth
