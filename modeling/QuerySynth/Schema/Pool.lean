import QuerySynth.Keyed
import QuerySynth.Schema.Declaration
import QuerySynth.Text.Pieces

/-! # Resolved schemas

All files of a compiled schema together, with every type name resolved. A name is looked for in
the scopes around its use, from the innermost on, and only in the file itself and in what that
file imports. A schema whose names clash, dangle or break a rule of its syntax is refused.
-/

namespace QuerySynth

/-- What a full name stands for. -/
inductive Meaning where
  | package
  | message (declaration : MessageDeclaration)
  | enumeration (declaration : EnumDeclaration)
  /-- A field, choice, option, enumeration value, service or method. -/
  | member
deriving DecidableEq, Repr

/-- What a full name stands for, and the file that says so. -/
structure Definition where
  file : String
  meaning : Meaning
deriving DecidableEq, Repr

/-- The definitions of a schema by full name. -/
abbrev Definitions := Keyed Definition

/-- A name and all names before one of its dots, the longest first. -/
def scopesOf (name : String) : List String :=
  let pieces := (Text.splitOn '.' name.toList).map String.ofList
  (List.range pieces.length).map fun dropped =>
    ".".intercalate (pieces.take (pieces.length - dropped))

/-- The names that an enumeration defines; its values stand beside it. -/
def EnumDeclaration.definitions (declaration : EnumDeclaration) : List (String × Meaning) :=
  (declaration.fullName, .enumeration declaration) ::
    declaration.values.map fun value => (fullNameIn declaration.scope value.1, .member)

/-- The names that a message defines, without the messages inside it. -/
def MessageDeclaration.definitions (message : MessageDeclaration) : List (String × Meaning) :=
  let member (name : String) : String × Meaning := (fullNameIn message.fullName name, .member)
  (message.fullName, .message message) ::
    (message.fields.map (member ·.name) ++ message.choices.map member ++
      message.enums.flatMap (·.definitions) ++ message.options.map (member ·.name))

def ServiceDeclaration.definitions (scope : String) (service : ServiceDeclaration) :
    List (String × Meaning) :=
  let fullName := fullNameIn scope service.name
  (fullName, .member) ::
    service.methods.map fun method => (fullNameIn fullName method.name, .member)

def FileDeclaration.definitions (file : FileDeclaration) : List (String × Meaning) :=
  (if file.package.isEmpty then [] else (scopesOf file.package).map (·, .package)) ++
    file.messages.flatMap (·.definitions) ++ file.enums.flatMap (·.definitions) ++
    file.services.flatMap (·.definitions file.package) ++
    file.options.map fun option => (fullNameIn file.package option.name, .member)

/-- Add a definition. Packages may be named again; nothing else may. -/
def Definitions.add? (definitions : Definitions) (name : String) (definition : Definition) :
    Option Definitions :=
  match Keyed.get? definitions name with
  | none => some (Keyed.insert name definition definitions)
  | some earlier =>
    if earlier.meaning = .package ∧ definition.meaning = .package then some definitions else none

def Definitions.ofFiles? (files : List FileDeclaration) : Option Definitions :=
  (files.flatMap fun file => file.definitions.map fun (name, meaning) =>
    (name, Definition.mk file.name meaning)).foldlM (fun definitions (name, definition) =>
      definitions.add? name definition) []

/-- The files that importers of the given files see: these and what they import publicly. -/
def publicly (files : Keyed FileDeclaration) (fuel : Nat) (names : List String) : List String :=
  match fuel with
  | 0 => names
  | fuel + 1 =>
    names ++ publicly files fuel
      (sortedNames (names.flatMap fun name =>
        ((files.get? name).map (·.publicImports)).getD []))

/-- The names of the files that a file sees. -/
def FileDeclaration.sees (file : FileDeclaration) (files : Keyed FileDeclaration) :
    List String :=
  file.name :: sortedNames (publicly files files.length file.imports)

/-- What a name means in the files that are seen. -/
def Definitions.visible? (definitions : Definitions) (seen : List String) (name : String) :
    Option Meaning :=
  match Keyed.get? definitions name with
  | some ⟨file, meaning⟩ => if seen.contains file then some meaning else none
  | none => none

/-- Whether other names may stand inside what is meant. -/
def Meaning.isScope : Meaning → Bool
  | .package | .message _ | .enumeration _ => true
  | .member => false

/-- The full names that a name may stand for in a scope. A leading dot marks a full name. Of a
name of several pieces the first piece alone decides the scope: the innermost one in which it
means something that holds names. -/
def Definitions.candidates (definitions : Definitions) (scope name : String) : List String :=
  let scopes := scopesOf scope ++ [""]
  match Text.splitOn '.' name.toList with
  | [] :: _ :: _ => [String.ofList (name.toList.drop 1)]
  | first :: _ :: _ =>
    let holds (outer : String) : Bool :=
      (Keyed.get? definitions (fullNameIn outer (String.ofList first))).any (·.meaning.isScope)
    (scopes.find? holds).toList.map (fullNameIn · name)
  | _ => scopes.map (fullNameIn · name)

/-- The type of a field. -/
inductive ResolvedType where
  /-- A type that is no message and no enumeration, by its code. -/
  | plain (code : Int)
  | message (declaration : MessageDeclaration)
  | enumeration (declaration : EnumDeclaration)
deriving DecidableEq, Repr

/-- A field with its type. -/
structure ResolvedField where
  declaration : FieldDeclaration
  type : ResolvedType
  path : DeclarationPath
deriving DecidableEq, Repr

/-- A message with its fields in the order of their numbers. -/
structure ResolvedMessage where
  file : FileDeclaration
  declaration : MessageDeclaration
  fields : List ResolvedField
deriving DecidableEq, Repr

/-- A method with its messages. -/
structure ResolvedMethod where
  name : String
  input : MessageDeclaration
  output : MessageDeclaration
deriving DecidableEq, Repr

/-- A service with its methods. -/
structure ResolvedService where
  name : String
  fullName : String
  methods : List ResolvedMethod
deriving DecidableEq, Repr

/-- An option with the message that it belongs to. -/
structure ResolvedOption where
  fullName : String
  target : MessageDeclaration
  declaration : FieldDeclaration
  type : ResolvedType
deriving DecidableEq, Repr

/-- A compiled schema in which all names are resolved. -/
structure Pool where
  messages : List ResolvedMessage
  services : List ResolvedService
  options : List ResolvedOption
deriving DecidableEq, Repr

/-- Where names of a file are looked up. -/
structure View where
  definitions : Definitions
  seen : List String

namespace View

/-- What a name in a scope means, among the meanings that are wanted. -/
def find? {α : Type} (view : View) (wanted : Meaning → Option α) (scope name : String) :
    Option α :=
  (view.definitions.candidates scope name).findSome? fun candidate =>
    (view.definitions.visible? view.seen candidate).bind wanted

def message? (view : View) : (scope name : String) → Option MessageDeclaration :=
  view.find? fun
    | .message declaration => some declaration
    | _ => none

/-- The message or enumeration of a name. -/
def type? (view : View) : (scope name : String) → Option ResolvedType :=
  view.find? fun
    | .message declaration => some (.message declaration)
    | .enumeration declaration => some (.enumeration declaration)
    | _ => none

end View

/-- The codes of types that need a name: groups, messages and enumerations. -/
def namedCodes : List Int := [10, 11, 14]

/-- The codes of all types; another code counts as the first one. -/
def typeCodes : List Int := (List.range 18).map fun (i : Nat) => (i : Int) + 1

/-- The type of a field: the named one, else the one of its code. -/
def FieldDeclaration.resolve? (field : FieldDeclaration) (view : View) (scope : String) :
    Option ResolvedType :=
  let code := field.typeCode.getD 1
  if !field.typeName.isEmpty then view.type? scope field.typeName
  else if namedCodes.contains code then none
  else some (.plain (if typeCodes.contains code then code else 1))

def isFieldNumber (number : Int) : Bool :=
  1 ≤ number && number ≤ 536870911 && !(19000 ≤ number && number ≤ 19999)

/-- Whether no element of a list comes again. -/
def isDistinct {α : Type} [DecidableEq α] : List α → Bool
  | [] => true
  | x :: rest => !rest.contains x && isDistinct rest

/-- A name in lower case without underscores; names that differ only there are too alike. -/
def flattenedName (name : String) : String :=
  String.ofList ((name.toList.filter (· != '_')).map Char.toLower)

/-- Whether the fields of a message obey the rules for numbers, names and choices. -/
def MessageDeclaration.isLegal (message : MessageDeclaration) (isProto3 : Bool) : Bool :=
  message.fields.all (fun field => isFieldNumber field.number) &&
    isDistinct (message.fields.map (·.number)) &&
    message.fields.all (fun field =>
      field.choice.all fun i => 0 ≤ i && i.toNat < message.choices.length) &&
    (!isProto3 || isDistinct (message.fields.map fun field => flattenedName field.name))

/-- Whether an enumeration has values, the first of them zero in the second syntax. -/
def EnumDeclaration.isLegal (declaration : EnumDeclaration) (isProto3 : Bool) : Bool :=
  match declaration.values with
  | [] => false
  | (_, first) :: _ => !isProto3 || first == 0

def MessageDeclaration.resolve? (message : MessageDeclaration) (file : FileDeclaration)
    (view : View) : Option ResolvedMessage := do
  guard (message.isLegal file.isProto3 && message.enums.all (·.isLegal file.isProto3))
  let fields ← message.fields.zipIdx.mapM fun (field, i) => do
    return ⟨field, ← field.resolve? view message.fullName, message.path ++ [2, (i : Int)]⟩
  return ⟨file, message,
    fields.mergeSort fun a b => a.declaration.number ≤ b.declaration.number⟩

/-- Resolve an option that is declared in a scope. -/
def FieldDeclaration.resolveOption? (option : FieldDeclaration) (view : View) (scope : String) :
    Option ResolvedOption := do
  guard (isFieldNumber option.number)
  return ⟨fullNameIn scope option.name, ← view.message? scope option.target, option,
    ← option.resolve? view scope⟩

def ServiceDeclaration.resolve? (service : ServiceDeclaration) (view : View) (scope : String) :
    Option ResolvedService := do
  let fullName := fullNameIn scope service.name
  let methods ← service.methods.mapM fun method => do
    return ⟨method.name, ← view.message? fullName method.input,
      ← view.message? fullName method.output⟩
  return ⟨service.name, fullName, methods⟩

def FileDeclaration.resolve? (file : FileDeclaration) (files : Keyed FileDeclaration)
    (definitions : Definitions) : Option Pool := do
  let view : View := ⟨definitions, file.sees files⟩
  guard (file.imports.all files.has && file.enums.all (·.isLegal file.isProto3))
  let inner ← file.messages.mapM fun message =>
    message.options.mapM (·.resolveOption? view message.fullName)
  return {
    messages := ← file.messages.mapM (·.resolve? file view)
    services := ← file.services.mapM (·.resolve? view file.package)
    options := (← file.options.mapM (·.resolveOption? view file.package)) ++ inner.flatten }

namespace Pool

def ofFiles? (files : List FileDeclaration) : Option Pool := do
  guard (isDistinct (files.map (·.name)))
  let byName := Keyed.ofList (files.map fun file => (file.name, file))
  let definitions ← Definitions.ofFiles? files
  let pools ← files.mapM (·.resolve? byName definitions)
  return {
    messages := pools.flatMap (·.messages)
    services := pools.flatMap (·.services)
    options := pools.flatMap (·.options) }

/-- The schema that bytes encode. -/
def ofBytes? (bytes : List UInt8) : Option Pool :=
  (filesOfBytes? bytes).bind ofFiles?

/-- The option of a full name, which may have a leading dot. -/
def option? (pool : Pool) (name : String) : Option ResolvedOption :=
  let plain := ((Text.dropStem? ['.'] name.toList).map String.ofList).getD name
  pool.options.find? (·.fullName == plain)

end Pool

end QuerySynth
