/-! # Why nothing is generated

Faults are causes; each place that a fault passes adds its context.
-/

namespace QuerySynth

/-- A reason why a file cannot be generated. -/
inductive GenerateFault where
  | invalidModulePath (path : String)
  /-- The finished code is not legal. -/
  | illegalCode
  | unknownFilter (filterType : String)
  | noRequest (request : String)
  | noKey (location : String)
  | noRow (row : String)
  | inHandler (location : String) (cause : GenerateFault)
  | inFile (name : String) (cause : GenerateFault)
deriving DecidableEq, Repr

namespace GenerateFault

/-- The words of a fault, the outermost context first. -/
def message : GenerateFault → String
  | invalidModulePath path => "invalid module path '" ++ path ++ "'"
  | illegalCode => "generated invalid Rust code"
  | unknownFilter filterType => "filter type '" ++ filterType ++ "' is not registered"
  | noRequest request => "request message '" ++ request ++ "' disappeared"
  | noKey location => location ++ " has no key parameter"
  | noRow row => "row message '" ++ row ++ "' is not in the schema"
  | inHandler location cause =>
    "failed to render handler for " ++ location ++ ": " ++ cause.message
  | inFile name cause => "failed to render " ++ name ++ ": " ++ cause.message

end GenerateFault

end QuerySynth
