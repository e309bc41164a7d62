import QuerySynth.Document.Format
import QuerySynth.Rest.Description
import QuerySynth.Storage.Basic

/-! # Stored descriptions

A description is read from a file in the format that the file's name tells.
-/

namespace QuerySynth

/-- Why a description cannot be had. -/
inductive DescriptionFault where
  | unreadable (path : Path) (cause : StorageFault)
  | unparsable (path : Path) (format : DocumentFormat)
  | invalid (path : Path)
deriving DecidableEq, Repr

/-- The words of a document that does not meet the grammar. -/
def Rest.invalidDocument : String := "document is not a valid OpenAPI 3 description"

def DescriptionFault.message : DescriptionFault → String
  | unreadable path cause =>
    "failed to read REST description '" ++ path.text ++ "': " ++ cause.message
  | unparsable path format => "failed to parse " ++ format.word ++ " '" ++ path.text ++ "'"
  | invalid path => "invalid REST description '" ++ path.text ++ "': " ++ Rest.invalidDocument

def Path.format (path : Path) : DocumentFormat :=
  .ofExtension path.extension?

/-- The document that a text holds, as a file at a path. -/
def Path.parse (path : Path) (text : String) : Except DescriptionFault Document :=
  match path.format.read? text with
  | some document => .ok document
  | none => .error (.unparsable path path.format)

namespace Storage

def loadDocument (storage : Storage) (path : Path) : Except DescriptionFault Document :=
  match storage.readText path with
  | .ok text => path.parse text
  | .error cause => .error (.unreadable path cause)

def loadDescription (storage : Storage) (path : Path) :
    Except DescriptionFault Rest.Description := do
  match Rest.Description.ofDocument? (← storage.loadDocument path) with
  | some description => .ok description
  | none => .error (.invalid path)

end Storage

end QuerySynth
