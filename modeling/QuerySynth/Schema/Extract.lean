import QuerySynth.Schema.Basic
import QuerySynth.Schema.Comment
import QuerySynth.Schema.Pool

/-! # From a compiled schema to its model

The model keeps the List and Get methods of all services and the messages outside the well-known
package. Request messages also tell which of their fields are filters, what their comments
document, and which wrapper kinds their fields have.
-/

namespace QuerySynth

/-- What the model takes from a compiled schema besides the declarations themselves. -/
structure SchemaOptions where
  registry : Registry
  /-- The full name of the option that names the required group of a field. -/
  groupOption : String

/-- The package of the wrapper messages. -/
def wellKnownPackage : String := "google.protobuf"

def plainType (code : Int) : FieldType :=
  if [13, 7].contains code then .scalar .uint32
  else if [4, 6].contains code then .scalar .uint64
  else if [5, 17, 15].contains code then .scalar .int32
  else if [3, 18, 16].contains code then .scalar .int64
  else if code = 9 then .scalar .string
  else if code = 8 then .scalar .bool
  else if code = 2 then .other "float"
  else if code = 12 then .other "bytes"
  else .other "double"

/-- The code of texts. -/
def textCode : Int := 9

namespace ResolvedField

def isMap (field : ResolvedField) : Bool :=
  match field.type with
  | .message entry => entry.isEntry && field.declaration.repeated
  | _ => false

def modelType (field : ResolvedField) : FieldType :=
  if field.isMap then .other "map"
  else
    match field.type with
    | .plain code => plainType code
    | .message declaration => .message declaration.name
    | .enumeration declaration => .other declaration.name

def wrapper? (field : ResolvedField) : Option WrapperKind :=
  match field.type with
  | .message declaration =>
    if field.isMap then none else WrapperKind.ofFullName? declaration.fullName
  | _ => none

/-- The comment at a field: what stands before it, else what stands after it. -/
def comment? (field : ResolvedField) (comments : List CommentDeclaration) : Option String :=
  (comments.find? (·.path == field.path)).bind fun comment =>
    (comment.leading.filter fun text => !text.toList.all Text.isBlank).or comment.trailing

/-- The required group that an option names: its last value, when it is a text that is not
empty. -/
def group? (field : ResolvedField) (option : ResolvedOption) : Option String :=
  if option.target.fullName = "google.protobuf.FieldOptions" &&
      option.type = .plain textCode && !option.declaration.repeated then
    ((field.declaration.options.lastText? option.declaration.number.toNat).join).filter
      (!·.isEmpty)
  else none

end ResolvedField

namespace ResolvedMessage

def isRequest (message : ResolvedMessage) : Bool :=
  (MethodKind.ofRequestName? message.declaration.name).isSome

def model (message : ResolvedMessage) (registry : Registry) (group : Option ResolvedOption) :
    Message where
  name := message.declaration.name
  fullName := message.declaration.fullName
  fields := message.fields.map fun field =>
    let type := field.modelType
    { name := field.declaration.name
      number := field.declaration.number.toNat
      type
      repeated := field.declaration.repeated && !field.isMap
      filterType :=
        match type with
        | .message name => if message.isRequest && registry.contains name then some name else none
        | _ => none
      wrapper := field.wrapper?
      description :=
        if message.isRequest then
          (field.comment? message.file.comments).bind filterDescription?
        else none
      requiredGroup := group.bind field.group? }

end ResolvedMessage

/-- The model of a service: its List and Get methods. -/
def ResolvedService.model (service : ResolvedService) : Service where
  name := service.name
  fullName := service.fullName
  methods := service.methods.filterMap fun method =>
    (MethodKind.ofMethodName? method.name).map fun kind =>
      ⟨method.name, kind, method.input.name, method.output.name⟩

def wrappersOf (messages : List Message) : Keyed WrapperKind :=
  Keyed.ofList ((messages.filter (·.isRequest)).flatMap fun message =>
    message.fields.filterMap fun field => field.wrapper.map (field.name, ·))

/-- The model of a compiled schema; without services there is nothing to model. -/
def Pool.model (pool : Pool) (options : SchemaOptions) : Schema :=
  if pool.services.isEmpty then .empty
  else
    let group := pool.option? options.groupOption
    let messages := (pool.messages.filter fun message =>
      message.file.package != wellKnownPackage && !message.declaration.isEntry).map
        (·.model options.registry group)
    { services := Schema.sortServices (pool.services.map (·.model))
      messages := Keyed.ofList (messages.map fun message => (message.name, message))
      wrappers := wrappersOf messages }

/-- The model of the compiled schema that bytes encode. -/
def Schema.ofBytes? (bytes : List UInt8) (options : SchemaOptions) : Option Schema :=
  (Pool.ofBytes? bytes).map (·.model options)

end QuerySynth
