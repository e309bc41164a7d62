import QuerySynth.Document.JsonReader
import QuerySynth.Document.JsonWriter
import QuerySynth.Document.Yaml.Reader
import QuerySynth.Document.Yaml.Writer

/-! # Document formats

A document is kept as YAML when its file is named so, and as JSON otherwise.
-/

namespace QuerySynth

/-- The format of a document's text. -/
inductive DocumentFormat where
  | json | yaml
deriving DecidableEq, Repr

namespace DocumentFormat

def word : DocumentFormat → String
  | .json => "JSON"
  | .yaml => "YAML"

/-- The format that a file extension stands for. -/
def ofExtension (ext : Option String) : DocumentFormat :=
  if ext = some "yaml" || ext = some "yml" then .yaml else .json

def read? (format : DocumentFormat) (text : String) : Option Document :=
  match format with
  | .json => Json.read? text
  | .yaml => Yaml.read? text

def render (format : DocumentFormat) (document : Document) : String :=
  match format with
  | .json => Json.indented "" document ++ "\n"
  | .yaml => Yaml.render document

end DocumentFormat

end QuerySynth
