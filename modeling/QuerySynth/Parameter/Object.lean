import QuerySynth.Number.Layout
import QuerySynth.Parameter.Basic
import QuerySynth.Text.Escape

/-! # Parameter objects

Reading a parameter from a document and writing it back. The members are looked at in key order
and the first fault is reported; a missing member counts only when all present ones are sound.
-/

namespace QuerySynth

/-- Why a document is no parameter object. -/
inductive ParameterFault where
  | notAnObject (found : Document)
  | notAText (found : Document)
  | notAFlag (found : Document)
  | notALocation (found : Document)
  | unknownLocation (word : String)
  /-- A location written as an object that has not exactly one member. -/
  | manyLocations
  /-- A location written as an object whose member is not null. -/
  | locationContent (found : Document)
  | missingName
  | missingLocation
deriving Repr

namespace ParameterFault

/-- Every number in positional notation. -/
def numberLayout : NumberLayout := ⟨-400, 400, "+"⟩

/-- How a message speaks of a value. -/
def naming : Document → String
  | .null => "null"
  | .bool value => "boolean `" ++ (if value then "true" else "false") ++ "`"
  | .int value => "integer `" ++ toString value ++ "`"
  | .float value => "floating point `" ++ numberLayout.render value ++ "`"
  | .str text => "string " ++ Text.quoted text
  | .arr _ => "sequence"
  | .obj _ => "map"

/-- The message of a fault. -/
def message : ParameterFault → String
  | .notAnObject found => "invalid type: " ++ naming found ++ ", expected struct RawParameter"
  | .notAText found => "invalid type: " ++ naming found ++ ", expected a string"
  | .notAFlag found => "invalid type: " ++ naming found ++ ", expected a boolean"
  | .notALocation found => "invalid type: " ++ naming found ++ ", expected string or map"
  | .unknownLocation word =>
    "unknown variant `" ++ word ++ "`, expected one of `path`, `query`, `header`, `cookie`"
  | .manyLocations => "invalid value: map, expected map with a single key"
  | .locationContent found => "invalid type: " ++ naming found ++ ", expected unit"
  | .missingName => "missing field `name`"
  | .missingLocation => "missing field `in`"

end ParameterFault

namespace RawParameter

open ParameterFault

/-- The location that a word names, or the fault of naming none. -/
def readLocationWord (word : String) : Except ParameterFault Location :=
  match Location.ofWord? word with
  | some location => .ok location
  | none => .error (.unknownLocation word)

/-- A location is a word, or an object with that word as its only key and null under it. -/
def readLocation : Document → Except ParameterFault Location
  | .str word => readLocationWord word
  | .obj [(word, content)] => do
    let location ← readLocationWord word
    match content with
    | .null => .ok location
    | found => .error (.locationContent found)
  | .obj _ => .error .manyLocations
  | found => .error (.notALocation found)

def readText : Document → Except ParameterFault String
  | .str text => .ok text
  | found => .error (.notAText found)

def readOptionalText : Document → Except ParameterFault (Option String)
  | .null => .ok none
  | .str text => .ok (some text)
  | found => .error (.notAText found)

def readFlag : Document → Except ParameterFault Bool
  | .bool value => .ok value
  | found => .error (.notAFlag found)

/-- Read a member when it is present. -/
def readMember {α : Type} (members : Keyed Document) (key : String)
    (read : Document → Except ParameterFault α) : Except ParameterFault (Option α) :=
  match members.get? key with
  | none => .ok none
  | some found => (read found).map some

/-- The members with a meaning of their own. -/
def knownKeys : List String :=
  ["name", "in", "description", "required", "schema", "x-required-group"]

/-- The parameter that a document describes. -/
def ofDocument : Document → Except ParameterFault RawParameter
  | .obj members => do
    let description ← readMember members "description" readOptionalText
    let location ← readMember members "in" readLocation
    let name ← readMember members "name" readText
    let required ← readMember members "required" readFlag
    let group ← readMember members "x-required-group" readOptionalText
    match name, location with
    | none, _ => .error .missingName
    | some _, none => .error .missingLocation
    | some name, some location =>
      .ok {
        name, location
        description := description.join
        required := required.getD false
        schema := (Keyed.get? members "schema").getD .null
        requiredGroup := group.join
        extra := members.filter fun (key, _) => !knownKeys.contains key }
  | found => .error (.notAnObject found)

/-- The document of a parameter; absent texts, a null schema and a false flag are left out. -/
def toDocument (raw : RawParameter) : Document :=
  .obj <| Keyed.insertAll raw.extra <|
    [("name", .str raw.name), ("in", .str raw.location.word)] ++
    (raw.description.toList.map fun text => ("description", .str text)) ++
    (if raw.required then [("required", .bool true)] else []) ++
    (if raw.schema.isNull then [] else [("schema", raw.schema)]) ++
    (raw.requiredGroup.toList.map fun group => ("x-required-group", .str group))

end RawParameter

end QuerySynth
