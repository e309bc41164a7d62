import QuerySynth.Rest.OpenApi
import QuerySynth.Document.Pointer

/-! # REST descriptions

A description is a document that meets the OpenAPI grammar, without the members of path items
that are neither methods nor known. Its operations come in the order of their paths, and within
a path in a fixed order of methods.
-/

namespace QuerySynth.Rest

/-- The members of a path item that are kept besides methods and extensions. -/
def itemKeys : List String := ["summary", "description", "servers", "parameters", "$ref"]

/-- Whether a member of a path item is kept. Case does not matter, except for extensions. -/
def isItemKey (key : String) : Bool :=
  let plain := String.ofList (key.toList.map Char.toLower)
  itemKeys.contains plain || Part.methodKeys.contains plain ||
    (Text.dropStem? ['x', '-'] key.toList).isSome

def stripItem : Document → Document
  | .obj members => .obj (members.filter fun (key, _) => isItemKey key)
  | other => other

def strip (document : Document) : Document :=
  document.mapMember "paths" fun
    | .obj paths => .obj (paths.map fun (path, item) => (path, stripItem item))
    | other => other

def pathItems (document : Document) : Keyed Document :=
  ((document.get? "paths").bind Document.members?).getD []

/-- A validated REST description. -/
structure Description where
  document : Document
  conforms : isOpenApi document = true
  /-- Its paths are a sorted table, like every object that is read. -/
  sorted : Keyed.Sorted (pathItems document)

def Description.ofDocument? (document : Document) : Option Description :=
  let stripped := strip document
  if valid : isOpenApi stripped = true ∧ Keyed.Sorted (pathItems stripped) then
    some ⟨stripped, valid.1, valid.2⟩
  else none

/-- An operation of a description. -/
structure Operation where
  path : String
  /-- The method in lower case, as in the description. -/
  method : String
  operationId : Option String
deriving DecidableEq, Repr

namespace Operation

def verb (operation : Operation) : String :=
  String.ofList (operation.method.toList.map Char.toUpper)

/-- Where a report places the operation. -/
def location (operation : Operation) : String :=
  operation.verb ++ " " ++ operation.path

end Operation

/-- The methods in the order of iteration; the last one comes twice. -/
def iteratedMethods : List String := Part.methodKeys ++ ["trace"]

/-- The operation under a method of a path item; null is none. -/
def operation? (path method : String) (value : Document) : Option Operation :=
  if value.isNull then none else some ⟨path, method, value.textAt? "operationId"⟩

def itemOperations (path : String) (item : Document) : List Operation :=
  iteratedMethods.filterMap fun method => (item.get? method).bind (operation? path method)

def operationsOf (items : Keyed Document) : List Operation :=
  items.flatMap fun (path, item) => itemOperations path item

namespace Description

def operations (description : Description) : List Operation :=
  operationsOf (pathItems description.document)

/-- The base path of the first server; empty without one. -/
def basePath (description : Description) : String :=
  match description.document.get? "servers" with
  | some (.arr (server :: _)) => ((server.textAt? "url").map basePathOf).getD ""
  | _ => ""

end Description

end QuerySynth.Rest
