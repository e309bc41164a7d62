import QuerySynth.Document.Pointer
import QuerySynth.Parameter.Flatten
import QuerySynth.Parameter.Object
import QuerySynth.Rest.Resource
import QuerySynth.Rest.Url
import QuerySynth.Schema.Basic

/-! # Normal form of a document

Every parameter object of a document is flattened and written back, component schemas get their
canonical names, and the references to them follow. A report counts what changed.
-/

namespace QuerySynth.Rest

/-- How many parameters changed in a way that is reported. -/
structure Tally where
  renamed : Nat := 0
  coerced : Nat := 0
deriving DecidableEq, Repr

instance : Add Tally := ⟨fun a b => ⟨a.renamed + b.renamed, a.coerced + b.coerced⟩⟩

def Tally.sum (tallies : List Tally) : Tally :=
  tallies.foldl (· + ·) {}

/-- What a normalisation changed. -/
structure NormalizeReport where
  renamedParams : Nat
  coercedLists : Nat
  /-- The renamed component schemas, by old name. -/
  renamedSchemas : Keyed String
deriving DecidableEq, Repr

/-- Whether nothing was counted. -/
def NormalizeReport.isUnchanged (report : NormalizeReport) : Bool :=
  report.renamedParams == 0 && report.coercedLists == 0 && report.renamedSchemas.isEmpty

/-- The parameter of a document that is no reference. -/
def inlineParameter? (document : Document) : Option RawParameter :=
  match document.get? "$ref" with
  | some _ => none
  | none => (RawParameter.ofDocument document).toOption

/-- A parameter with the name, description and schema of its flattened form. -/
def flattened (ctx : FlattenContext) (raw : RawParameter) : RawParameter :=
  let result := raw.flatten ctx
  { raw with
    name := result.parameter.name
    description :=
      if raw.location = .query ∨ raw.description.isNone then
        result.parameter.description.or raw.description
      else raw.description
    schema := if result.schema.isNull then raw.schema else result.schema }

/-- A parameter object in normal form; references and malformed objects stay as they are. -/
def normalizeParameter (ctx : FlattenContext) (document : Document) : Document :=
  match inlineParameter? document with
  | some raw => (flattened ctx raw).toDocument
  | none => document

def parameterTally (ctx : FlattenContext) (document : Document) : Tally :=
  match inlineParameter? document with
  | some raw =>
    let parameter := (raw.flatten ctx).parameter
    ⟨if parameter.name = raw.name then 0 else 1,
      if raw.schema.isArraySchema ∧ parameter.valueType.listElement.isSome then 1 else 0⟩
  | none => {}

def normalizeList (ctx : FlattenContext) : Document → Document
  | .arr items => .arr (items.map (normalizeParameter ctx))
  | other => other

def listTally (ctx : FlattenContext) (list : Option Document) : Tally :=
  match list with
  | some (.arr items) => Tally.sum (items.map (parameterTally ctx))
  | _ => {}

/-- What the normal form of a document depends on. -/
structure NormalizeScope where
  registry : Registry
  schema : Schema
  basePath : String

/-- The members of a path item that hold operations. -/
def operationKeys : List String :=
  ["get", "post", "put", "delete", "patch", "options", "head", "trace"]

/-- Whether some entry of a parameter list is a path parameter. -/
def hasPathParameter (list : Option Document) : Bool :=
  ((list.bind Document.items?).getD []).any fun entry => entry.textAt? "in" == some "path"

namespace NormalizeScope

/-- Flattening without descriptions. -/
def plainContext (scope : NormalizeScope) : FlattenContext :=
  ⟨scope.registry, [], scope.schema.wrappers⟩

/-- The kind of an operation, as its parameter lists tell. -/
def operationKind (item operation : Document) : MethodKind :=
  if hasPathParameter (item.get? "parameters") || hasPathParameter (operation.get? "parameters")
  then .get else .list

/-- Flattening with the descriptions of the request that serves an operation. -/
def operationContext (scope : NormalizeScope) (path : String) (item operation : Document) :
    FlattenContext :=
  let request := (resource? path scope.basePath).bind fun resource =>
    scope.schema.request? resource (operationKind item operation)
  { scope.plainContext with descriptions := (request.map Message.descriptions).getD [] }

/-- One member of a path item in normal form. -/
def normalizeMember (scope : NormalizeScope) (path : String) (item : Document)
    (key : String) (value : Document) : Document :=
  if operationKeys.contains key then
    value.mapMember "parameters" (normalizeList (scope.operationContext path item value))
  else if key = "parameters" then normalizeList scope.plainContext value
  else value

/-- What is counted for one member of a path item. -/
def memberTally (scope : NormalizeScope) (path : String) (item : Document) (key : String)
    (value : Document) : Tally :=
  if operationKeys.contains key then
    listTally (scope.operationContext path item value) (value.get? "parameters")
  else if key = "parameters" then listTally scope.plainContext (some value)
  else {}

/-- A path item in normal form. -/
def normalizeItem (scope : NormalizeScope) (path : String) : Document → Document
  | .obj members =>
    .obj (members.map fun (key, value) =>
      (key, scope.normalizeMember path (.obj members) key value))
  | other => other

def itemTally (scope : NormalizeScope) (path : String) : Document → Tally
  | .obj members =>
    Tally.sum (members.map fun (key, value) => scope.memberTally path (.obj members) key value)
  | _ => {}

def normalizePaths (scope : NormalizeScope) : Document → Document
  | .obj paths => .obj (paths.map fun (path, item) => (path, scope.normalizeItem path item))
  | other => other

/-- The component parameters of a document in normal form. -/
def normalizeComponents (scope : NormalizeScope) : Document → Document
  | .obj parameters =>
    .obj (parameters.map fun (name, entry) =>
      (name, normalizeParameter scope.plainContext entry))
  | other => other

def normalizeParameters (scope : NormalizeScope) (document : Document) : Document :=
  (document.mapMember "paths" scope.normalizePaths).mapMember "components" fun components =>
    components.mapMember "parameters" scope.normalizeComponents

/-- What is counted for the parameter objects of a document. -/
def tally (scope : NormalizeScope) (document : Document) : Tally :=
  let paths := ((document.get? "paths").bind Document.members?).getD []
  let parameters :=
    (((document.get? "components").bind (·.get? "parameters")).bind Document.members?).getD []
  Tally.sum (paths.map fun (path, item) => scope.itemTally path item) +
    Tally.sum (parameters.map fun (_, entry) => parameterTally scope.plainContext entry)

end NormalizeScope

def canonicalName (name : String) : String :=
  Name.toPascal (Name.toSnake name)

/-- Give one schema its canonical name, unless that name is empty, its own, or taken. -/
def renameSchema (state : Keyed Document × Keyed String) (name : String) :
    Keyed Document × Keyed String :=
  let (schemas, renames) := state
  let fixed := canonicalName name
  if fixed = "" ∨ fixed = name ∨ schemas.has fixed then state
  else
    match schemas.get? name with
    | none => state
    | some body => ((schemas.erase name).insert fixed body, renames.insert name fixed)

/-- Rename all schemas, in the order of their old names. -/
def renameSchemas (schemas : Keyed Document) : Keyed Document × Keyed String :=
  schemas.keys.foldl renameSchema (schemas, [])

/-- How references to component schemas start. -/
def schemaReference : String := "#/components/schemas/"

/-- A reference that follows the renaming of the schema it names. -/
def followRename (renames : Keyed String) (reference : String) : String :=
  match (Text.dropStem? schemaReference.toList reference.toList).bind
      fun name => renames.get? (String.ofList name) with
  | some target => schemaReference ++ target
  | none => reference

mutual

/-- A document whose references follow the renamed schemas. -/
def renameReferences (renames : Keyed String) : Document → Document
  | .arr items => .arr (renameInItems renames items)
  | .obj members => .obj (renameInMembers renames members)
  | other => other

def renameInItems (renames : Keyed String) : List Document → List Document
  | [] => []
  | item :: rest => renameReferences renames item :: renameInItems renames rest

/-- Members whose references follow; a text under `$ref` is a reference. -/
def renameInMembers (renames : Keyed String) :
    List (String × Document) → List (String × Document)
  | [] => []
  | (key, value) :: rest =>
    (key,
      match key == "$ref", value with
      | true, .str reference => .str (followRename renames reference)
      | _, value => renameReferences renames value) :: renameInMembers renames rest

end

def componentSchemas (document : Document) : Keyed Document :=
  (((document.get? "components").bind (·.get? "schemas")).bind Document.members?).getD []

/-- A document with canonical schema names, and the renamings. -/
def canonicalizeSchemas (document : Document) : Document × Keyed String :=
  let (schemas, renames) := renameSchemas (componentSchemas document)
  if renames.isEmpty then (document, [])
  else
    let replaced := document.mapMember "components" fun components =>
      components.mapMember "schemas" fun _ => .obj schemas
    (renameReferences renames replaced, renames)

def documentBasePath (document : Document) : String :=
  (((document.pointer? "/servers/0/url").bind Document.text?).map basePathOf).getD ""

/-- A document in normal form and what changed. -/
def normalizeDocument (document : Document) (schema : Schema) (registry : Registry)
    (basePath : Option String) : Document × NormalizeReport :=
  let scope : NormalizeScope := ⟨registry, schema, basePath.getD (documentBasePath document)⟩
  let tally := scope.tally document
  let (final, renames) := canonicalizeSchemas (scope.normalizeParameters document)
  (final, ⟨tally.renamed, tally.coerced, renames⟩)

end QuerySynth.Rest
