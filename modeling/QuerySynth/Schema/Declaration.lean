import QuerySynth.Schema.Wire

/-! # Declarations of a compiled schema

A compiled schema is a list of files with declarations of messages, enumerations, services and
options. Nested messages are taken out of the messages around them: a file lists all its
messages, each before those inside it, with full names and the paths by which comments refer to
them.
-/

namespace QuerySynth

/-- A path to a declaration: field numbers and places by turns. -/
abbrev DeclarationPath := List Int

/-- A declared field, or an option of another message. -/
structure FieldDeclaration where
  name : String
  number : Int
  repeated : Bool
  /-- The code of the declared type. -/
  typeCode : Option Int
  /-- The name of the type when it is a message or an enumeration. -/
  typeName : String
  /-- The message that an option belongs to. -/
  target : String
  /-- The place of the choice that a field belongs to. -/
  choice : Option Int
  jsonName : Option String
  /-- The options that are set on the field. -/
  options : Wire.Record
deriving DecidableEq, Repr

/-- A declared enumeration. -/
structure EnumDeclaration where
  name : String
  /-- The full name of what the enumeration is declared in. -/
  scope : String
  values : List (String × Int)
deriving DecidableEq, Repr

/-- A declared message. -/
structure MessageDeclaration where
  name : String
  /-- The full name of what the message is declared in. -/
  scope : String
  path : DeclarationPath
  fields : List FieldDeclaration
  choices : List String
  options : List FieldDeclaration
  enums : List EnumDeclaration
  /-- Whether the message is the entry of a map. -/
  isEntry : Bool
deriving DecidableEq, Repr

/-- A declared method. -/
structure MethodDeclaration where
  name : String
  input : String
  output : String
deriving DecidableEq, Repr

/-- A declared service. -/
structure ServiceDeclaration where
  name : String
  methods : List MethodDeclaration
deriving DecidableEq, Repr

/-- The comments at a declaration. -/
structure CommentDeclaration where
  path : DeclarationPath
  leading : Option String
  trailing : Option String
deriving DecidableEq, Repr

/-- A file of a compiled schema. -/
structure FileDeclaration where
  name : String
  package : String
  imports : List String
  /-- The imports that importers of this file see too. -/
  publicImports : List String
  messages : List MessageDeclaration
  enums : List EnumDeclaration
  services : List ServiceDeclaration
  options : List FieldDeclaration
  comments : List CommentDeclaration
  /-- Whether the file has the second syntax, the one without unset values. -/
  isProto3 : Bool
deriving DecidableEq, Repr

def fullNameIn (scope name : String) : String :=
  if scope.isEmpty then name else scope ++ "." ++ name

def MessageDeclaration.fullName (message : MessageDeclaration) : String :=
  fullNameIn message.scope message.name

def EnumDeclaration.fullName (declaration : EnumDeclaration) : String :=
  fullNameIn declaration.scope declaration.name

open Wire

/-- The parts of a record that a field holds, each read on its own. -/
def parts? {α : Type} (record : Record) (number : Nat) (read : Record → Option α) :
    Option (List α) := do
  (← record.contents? number).mapM fun content => (record? content).bind read

def repeatedLabel : Int := 3

def FieldDeclaration.ofRecord? (record : Record) : Option FieldDeclaration := do
  let options ← record.merged? 8
  guard (record.admits [] [7] [17] && options.admits [999] [] [1, 2, 3, 5, 6, 10])
  return {
    name := (← record.lastText? 1).getD ""
    target := (← record.lastText? 2).getD ""
    number := (← record.lastNumber? 3).getD 0
    repeated := (← record.lastNumber? 4) == some repeatedLabel
    typeCode := ← record.lastNumber? 5
    typeName := (← record.lastText? 6).getD ""
    options
    choice := ← record.lastNumber? 9
    jsonName := ← record.lastText? 10 }

def EnumDeclaration.ofRecord? (scope : String) (record : Record) : Option EnumDeclaration := do
  guard (record.admits [3, 4] [5] [])
  return {
    name := (← record.lastText? 1).getD ""
    scope
    values := ← parts? record 2 fun value => do
      guard (value.admits [3] [] [])
      return ((← value.lastText? 1).getD "", (← value.lastNumber? 2).getD 0) }

/-- Read a message without the messages inside it. -/
def MessageDeclaration.ofRecord? (scope : String) (path : DeclarationPath) (record : Record) :
    Option MessageDeclaration := do
  let settings ← record.merged? 7
  guard (record.admits [5, 9] [10] [] && settings.admits [999] [] [1, 2, 3])
  let name := (← record.lastText? 1).getD ""
  return {
    name, scope, path
    fields := ← parts? record 2 FieldDeclaration.ofRecord?
    enums := ← parts? record 4 (EnumDeclaration.ofRecord? (fullNameIn scope name))
    options := ← parts? record 6 FieldDeclaration.ofRecord?
    choices := ← parts? record 8 fun choice => (choice.lastText? 1).map (·.getD "")
    isEntry := ((← settings.lastNumber? 7).getD 0) != 0 }

/-- Read a message and all messages inside it, at most `depth` deep. -/
def messagesOfRecord? (depth : Nat) (scope : String) (path : DeclarationPath)
    (record : Record) : Option (List MessageDeclaration) :=
  match depth with
  | 0 => none
  | depth + 1 => do
    let message ← MessageDeclaration.ofRecord? scope path record
    let inner ← parts? record 3 some
    let nested ← inner.zipIdx.mapM fun (part, i) =>
      messagesOfRecord? depth message.fullName (path ++ [3, (i : Int)]) part
    return message :: nested.flatten

/-- How deep messages may be nested. -/
def nestingLimit : Nat := 99

def ServiceDeclaration.ofRecord? (record : Record) : Option ServiceDeclaration := do
  guard (record.admits [3] [] [])
  return {
    name := (← record.lastText? 1).getD ""
    methods := ← parts? record 2 fun method => do
      guard (method.admits [4] [] [5, 6])
      return {
        name := (← method.lastText? 1).getD ""
        input := (← method.lastText? 2).getD ""
        output := (← method.lastText? 3).getD "" } }

def CommentDeclaration.ofRecord? (record : Record) : Option CommentDeclaration := do
  guard (record.admits [] [6] [] && (record.numbers? 2).isSome)
  return {
    path := ← record.numbers? 1
    leading := ← record.lastText? 3
    trailing := ← record.lastText? 4 }

/-- Whether a syntax is the second one; `none` for an unknown syntax. -/
def isProto3? : Option String → Option Bool
  | none | some "proto2" => some false
  | some "proto3" => some true
  | some _ => none

def FileDeclaration.ofRecord? (record : Record) : Option FileDeclaration := do
  guard (record.admits [8] [] [] && (record.numbers? 11).isSome)
  let package := (← record.lastText? 2).getD ""
  let imports ← record.texts? 3
  let messages ← (← parts? record 4 some).zipIdx.mapM fun (part, i) =>
    messagesOfRecord? nestingLimit package [4, (i : Int)] part
  return {
    name := (← record.lastText? 1).getD ""
    package, imports
    publicImports := (← record.numbers? 10).filterMap fun i =>
      i.toNat?.bind (imports[·]?)
    messages := messages.flatten
    enums := ← parts? record 5 (EnumDeclaration.ofRecord? package)
    services := ← parts? record 6 ServiceDeclaration.ofRecord?
    options := ← parts? record 7 FieldDeclaration.ofRecord?
    comments := ← parts? (← record.merged? 9) 1 CommentDeclaration.ofRecord?
    isProto3 := ← isProto3? (← record.lastText? 12) }

def filesOfBytes? (bytes : List UInt8) : Option (List FileDeclaration) := do
  parts? (← record? bytes) 1 FileDeclaration.ofRecord?

end QuerySynth
