import QuerySynth.Text.Words

/-! # Identifiers of generated code

Schema and request names become legal identifiers: foreign characters turn into underscores,
keywords are written raw or, where that is not allowed, with an underscore after them.
-/

namespace QuerySynth.Code

/-- Words that no plain identifier may be. -/
def keywords : List String :=
  ["abstract", "as", "async", "await", "become", "box", "break", "const", "continue", "crate",
   "do", "dyn", "else", "enum", "extern", "false", "final", "fn", "for", "if", "impl", "in",
   "let", "loop", "macro", "match", "mod", "move", "mut", "override", "priv", "pub", "ref",
   "return", "Self", "self", "static", "struct", "super", "trait", "true", "try", "type",
   "typeof", "unsafe", "unsized", "use", "virtual", "where", "while", "yield"]

/-- Keywords that name a place in the module tree; they cannot be written raw. -/
def pathKeywords : List String :=
  ["self", "super", "crate", "Self"]

/-- The characters of a plain ASCII identifier. -/
def isWordChar (c : Char) : Bool :=
  c.isAlphanum || c == '_'

/-- Foreign characters replaced, and an underscore before a digit or in an empty name. -/
def cleaned (name : List Char) : List Char :=
  let replaced := name.map fun c => if isWordChar c then c else '_'
  if replaced.head?.all Char.isDigit then '_' :: replaced else replaced

/-- A cleaned name made legal: path keywords and a lone underscore get an underscore, the other
keywords become raw. -/
def legalized (clean : String) : String :=
  if pathKeywords.contains clean then clean ++ "_"
  else if clean == "_" then "__"
  else if keywords.contains clean then "r#" ++ clean
  else clean

/-- The identifier for a name. -/
def ident (name : String) : String :=
  legalized (String.ofList (cleaned name.toList))

def typeIdent (name : String) : String :=
  ident (String.ofList (Text.upperCamel name.toList))

def fieldIdent (name : String) : String :=
  ident (String.ofList (Text.snakeWords name.toList))

end QuerySynth.Code
