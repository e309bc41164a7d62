import QuerySynth.Schema.Extract
import QuerySynth.Storage.Basic

/-! # Stored schemas

A compiled schema is a file, or a directory whose files of certain extensions are merged in the
order of their names.
-/

namespace QuerySynth

/-- Why a schema cannot be had. -/
inductive SchemaFault where
  | unreadable (path : Path) (cause : StorageFault)
  | undecodable (path : Path)
deriving DecidableEq, Repr

namespace SchemaFault

def message : SchemaFault → String
  | unreadable path cause => "failed to read schema '" ++ path.text ++ "': " ++ cause.message
  | undecodable path => "failed to decode descriptor set '" ++ path.text ++ "'"

/-- The words of a fault with its cause once more after them. -/
def messageWithCause : SchemaFault → String
  | fault@(unreadable _ cause) => fault.message ++ ": " ++ cause.message
  | fault => fault.message

end SchemaFault

def schemaExtensions : List String := ["pb", "bin", "desc"]

namespace Storage

def loadSchemaFile (storage : Storage) (options : SchemaOptions) (path : Path) :
    Except SchemaFault Schema :=
  match storage.read path with
  | .error cause => .error (.unreadable path cause)
  | .ok bytes =>
    match Schema.ofBytes? bytes options with
    | some schema => .ok schema
    | none => .error (.undecodable path)

/-- Whether a path in a directory counts as a compiled schema. -/
def isSchemaFile (storage : Storage) (path : Path) : Bool :=
  storage.isFile path && path.extension?.any schemaExtensions.contains

/-- The schema of a file, or of all files of a directory together. -/
def loadSchema (storage : Storage) (options : SchemaOptions) (path : Path) :
    Except SchemaFault Schema :=
  if storage.isDirectory path then
    match storage.list path with
    | .error cause => .error (.unreadable path cause)
    | .ok paths => do
      let schemas ← (paths.filter storage.isSchemaFile).mapM (storage.loadSchemaFile options)
      return schemas.foldl Schema.merge Schema.empty
  else storage.loadSchemaFile options path

end Storage

end QuerySynth
