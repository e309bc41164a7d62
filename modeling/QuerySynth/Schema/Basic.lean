import QuerySynth.Filter.Registry
import QuerySynth.Schema.Wrapper

/-! # Schema models

What a run knows of the compiled schema: services with their List and Get methods, messages with
their fields, and the wrapper kinds of request fields. Models are merged; later definitions win.
-/

namespace QuerySynth

/-- The two kinds of methods. -/
inductive MethodKind where
  /-- Returns a page of rows. -/
  | list
  /-- Returns the row of a key. -/
  | get
deriving DecidableEq, Repr

namespace MethodKind

/-- The word for a kind in method and message names. -/
def word : MethodKind → String
  | .list => "List"
  | .get => "Get"

/-- The word for a kind in the names of queries. -/
def queryWord : MethodKind → String
  | .list => "list"
  | .get => "get"

/-- The kind of a method, by the word at the end of its name. -/
def ofMethodName? (name : String) : Option MethodKind :=
  [MethodKind.list, .get].find? fun kind => Text.endsWith kind.word.toList name.toList

def requestName (kind : MethodKind) (resource : String) : String :=
  kind.word ++ Name.toPascal resource ++ "Request"

/-- The kind and the capitalised resource of a request message. -/
def ofRequestName? (name : String) : Option (MethodKind × String) := do
  let stem ← Text.dropEnding? "Request".toList name.toList
  [MethodKind.list, .get].findSome? fun kind =>
    match Text.dropStem? kind.word.toList stem with
    | some (c :: rest) => some (kind, String.ofList (c :: rest))
    | _ => none

/-- List methods come before Get methods. -/
def rank : MethodKind → Nat
  | .list => 0
  | .get => 1

end MethodKind

/-- The declared type of a field. -/
inductive FieldType where
  /-- A scalar that a query text can be read as. -/
  | scalar (kind : ScalarKind)
  /-- Any other scalar, enumeration or map, by name. -/
  | other (name : String)
  /-- A message, by its short name. -/
  | message (name : String)
deriving DecidableEq, Repr

/-- A field of a message. -/
structure Field where
  name : String
  number : Nat
  type : FieldType
  repeated : Bool
  /-- The filter family when the field of a request is a known filter. -/
  filterType : Option String
  wrapper : Option WrapperKind
  description : Option String
  requiredGroup : Option String
deriving DecidableEq, Repr

namespace Field

def scalar? (field : Field) : Option ScalarKind :=
  match field.type with
  | .scalar kind => some kind
  | _ => none

def message? (field : Field) : Option String :=
  match field.type with
  | .message name => some name
  | _ => none

end Field

/-- A message with its fields in field order. -/
structure Message where
  name : String
  fullName : String
  fields : List Field
deriving DecidableEq, Repr

namespace Message

def field? (message : Message) (name : String) : Option Field :=
  message.fields.find? (·.name == name)

def descriptions (message : Message) : Keyed String :=
  Keyed.ofList (message.fields.filterMap fun field => field.description.map (field.name, ·))

def isRequest (message : Message) : Bool :=
  (MethodKind.ofRequestName? message.name).isSome

end Message

/-- A List or Get method. -/
structure Method where
  name : String
  kind : MethodKind
  /-- The short name of the request message. -/
  input : String
  /-- The short name of the response message. -/
  output : String
deriving DecidableEq, Repr

/-- A service with its List and Get methods. -/
structure Service where
  name : String
  fullName : String
  methods : List Method
deriving DecidableEq, Repr

/-- Everything that a run needs of the compiled schema. -/
structure Schema where
  /-- The services by name. -/
  services : List Service := []
  /-- The messages by short name. -/
  messages : Keyed Message := []
  /-- The wrapper kinds of request fields by field name. -/
  wrappers : Keyed WrapperKind := []
deriving DecidableEq, Repr

namespace Schema

def empty : Schema := {}

def isEmpty (schema : Schema) : Bool :=
  schema.services.isEmpty

def message? (schema : Schema) (name : String) : Option Message :=
  schema.messages.get? name

/-- The method that serves a resource: the first of its kind with the resource's request. -/
def method? (schema : Schema) (resource : String) (kind : MethodKind) : Option Method :=
  (schema.services.flatMap (·.methods)).find? fun method =>
    method.kind == kind && method.input == kind.requestName resource

def request? (schema : Schema) (resource : String) (kind : MethodKind) : Option Message :=
  (schema.method? resource kind).bind fun method => schema.message? method.input

/-- Services in the order of their names; equal names keep their order. -/
def sortServices (services : List Service) : List Service :=
  services.mergeSort fun a b => decide (a.name ≤ b.name)

/-- Put a service at the end, in place of one of the same full name. -/
def putService (services : List Service) (service : Service) : List Service :=
  services.filter (·.fullName != service.fullName) ++ [service]

/-- Both models together; on a clash the later definition wins. -/
def merge (schema later : Schema) : Schema where
  services := sortServices (later.services.foldl putService schema.services)
  messages := schema.messages.insertAll later.messages
  wrappers := schema.wrappers.insertAll later.wrappers

/-- The filter fields of all request messages as message, field and family, ordered by message
and field name. -/
def filterFields (schema : Schema) : List (String × String × String) :=
  (schema.messages.values.filter Message.isRequest).flatMap fun message =>
    (Keyed.ofList (message.fields.filterMap fun field =>
      field.filterType.map (field.name, ·))).map fun (field, family) =>
        (message.name, field, family)

end Schema

end QuerySynth
