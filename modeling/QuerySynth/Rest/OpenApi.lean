import QuerySynth.Rest.Form

/-! # The grammar of REST descriptions

The parts of an OpenAPI 3 description and the forms of their members. Most optional members
admit null; lists and tables that default to empty do not.
-/

namespace QuerySynth.Rest

/-- The parts of a description. -/
inductive Part where
  | description | info | contact | license | server | serverVariable | externalDocs | tag
  | pathItem | operation | parameter | header | requestBody | response | mediaType | encoding
  | example | link | securityScheme | components | schema | discriminator | reference
deriving DecidableEq, Repr

namespace Part

/-- A member that must be present. -/
def needs (key : String) (form : Form Part) : MemberForm Part := ⟨key, true, form⟩

/-- A member that may be missing but must not be null. -/
def may (key : String) (form : Form Part) : MemberForm Part := ⟨key, false, form⟩

/-- A member that may be missing or null. -/
def maybe (key : String) (form : Form Part) : MemberForm Part := ⟨key, false, .optional form⟩

/-- A part, or a reference to one. -/
def orReference (name : Part) : Form Part := .either (.part .reference) (.part name)

/-- A schema, a reference to one, or a truth value. -/
def anySchema : Form Part := .either .flag (orReference .schema)

def typeWords : List String :=
  ["boolean", "integer", "number", "string", "array", "object", "null"]

def styleWords : List String :=
  ["matrix", "label", "form", "simple", "spaceDelimited", "pipeDelimited", "deepObject"]

def securityRequirement : Form Part := .table (.list .text)

/-- The members that parameters and headers share. -/
def parameterMembers : List (MemberForm Part) :=
  [maybe "description" .text, maybe "required" .flag, maybe "deprecated" .flag,
   maybe "allowEmptyValue" .flag, maybe "style" (.word styleWords), maybe "explode" .flag,
   maybe "allowReserved" .flag, maybe "schema" (orReference .schema),
   may "examples" (.table (orReference .example)), maybe "content" (.table (.part .mediaType))]

/-- The members of a schema. -/
def schemaMembers : List (MemberForm Part) :=
  ["allOf", "anyOf", "oneOf", "prefixItems"].map (may · (.list (orReference .schema))) ++
  ["items", "additionalProperties"].map (maybe · anySchema) ++
  [may "properties" (.table (orReference .schema)),
   maybe "type" (.either (.word typeWords) (.list (.word typeWords))), may "enum" (.list .anything),
   may "required" (.list .text), may "examples" (.list .anything),
   maybe "discriminator" (.part .discriminator)] ++
  ["multipleOf", "maximum", "exclusiveMaximum", "minimum", "exclusiveMinimum"].map
    (maybe · .number) ++
  ["maxLength", "minLength", "maxItems", "minItems", "maxProperties", "minProperties"].map
    (maybe · .count) ++
  ["pattern", "format", "title", "description"].map (maybe · .text) ++
  ["uniqueItems", "deprecated", "readOnly", "writeOnly"].map (maybe · .flag)

/-- The methods that a path item may hold. -/
def methodKeys : List String :=
  ["get", "put", "post", "delete", "options", "head", "patch", "trace"]

/-- The members of every part. -/
def members : Grammar Part
  | .description =>
    [needs "openapi" .text, needs "info" (.part .info), may "servers" (.list (.part .server)),
     maybe "paths" (.table (.part .pathItem)), maybe "components" (.part .components),
     may "security" (.list securityRequirement), may "tags" (.list (.part .tag)),
     may "webhooks" (.table (.part .pathItem)), maybe "externalDocs" (.part .externalDocs)]
  | .info =>
    [needs "title" .text, needs "version" .text, maybe "summary" .text, maybe "description" .text,
     maybe "termsOfService" .address, maybe "contact" (.part .contact),
     maybe "license" (.part .license)]
  | .contact => [maybe "name" .text, maybe "url" .address, maybe "email" .text]
  | .license => [needs "name" .text, maybe "identifier" .text, maybe "url" .address]
  | .server =>
    [needs "url" .text, maybe "description" .text,
     may "variables" (.table (.part .serverVariable))]
  | .serverVariable =>
    [needs "default" .text, may "enum" (.list .text), maybe "description" .text]
  | .externalDocs => [needs "url" .address, maybe "description" .text]
  | .tag =>
    [needs "name" .text, maybe "description" .text, maybe "externalDocs" (.part .externalDocs)]
  | .pathItem =>
    [maybe "$ref" .text, maybe "summary" .text, maybe "description" .text,
     may "servers" (.list (.part .server)), may "parameters" (.list (orReference .parameter))] ++
    methodKeys.map (maybe · (.part .operation))
  | .operation =>
    [may "tags" (.list .text), maybe "summary" .text, maybe "description" .text,
     maybe "externalDocs" (.part .externalDocs), maybe "operationId" .text,
     may "parameters" (.list (orReference .parameter)),
     maybe "requestBody" (orReference .requestBody),
     maybe "responses" (.table (orReference .response)), may "callbacks" (.table .anything),
     maybe "deprecated" .flag, may "security" (.list securityRequirement),
     may "servers" (.list (.part .server))]
  | .parameter =>
    [needs "name" .text, needs "in" (.word ["path", "query", "header", "cookie"])] ++
      parameterMembers
  | .header => parameterMembers
  | .requestBody =>
    [needs "content" (.table (.part .mediaType)), maybe "description" .text,
     maybe "required" .flag]
  | .response =>
    [maybe "description" .text, may "headers" (.table (orReference .header)),
     may "content" (.table (.part .mediaType)), may "links" (.table (orReference .link))]
  | .mediaType =>
    [maybe "schema" (orReference .schema), may "encoding" (.table (.part .encoding))]
  | .encoding =>
    [maybe "contentType" .text, may "headers" (.table (orReference .header)),
     maybe "style" .text, maybe "explode" .flag]
  | .example => [maybe "summary" .text, maybe "description" .text, maybe "externalValue" .text]
  | .link => [maybe "description" .text, maybe "operationId" .text, maybe "operationRef" .text]
  | .securityScheme =>
    [needs "type" (.word ["apiKey", "http", "oauth2", "openIdConnect", "mutualTLS"]),
     maybe "description" .text]
  | .components =>
    [may "schemas" (.table (orReference .schema)), may "responses" (.table (orReference .response)),
     may "parameters" (.table (orReference .parameter)),
     may "examples" (.table (orReference .example)),
     may "requestBodies" (.table (orReference .requestBody)),
     may "headers" (.table (orReference .header)),
     may "securitySchemes" (.table (orReference .securityScheme)),
     may "links" (.table (orReference .link)), may "callbacks" (.table .anything),
     may "pathItems" (.table (orReference .pathItem))]
  | .schema => schemaMembers
  | .discriminator => [needs "propertyName" .text, maybe "mapping" (.table .text)]
  | .reference => [needs "$ref" .text, maybe "summary" .text, maybe "description" .text]

end Part

/-- Whether a document is an OpenAPI 3 description. -/
def isOpenApi (document : Document) : Bool :=
  (Form.part Part.description).admits Part.members document

end QuerySynth.Rest
