import QuerySynth.Parameter.Object
import QuerySynth.Schema.Basic

/-! # Diagnostics

What is found while endpoints are built. A finding never stops a run: the parameter, group or
operation it is about is left out. Findings are causes; their severity, kind and words are
decided here.
-/

namespace QuerySynth

/-- How grave a finding is; warnings come first. -/
inductive Severity where
  | warning | info
deriving DecidableEq, Repr

/-- What a finding is about. -/
inductive DiagnosticKind where
  | unresolvedField
  | unknownFilterType
  | unsupportedOperator
  | missingSchemaMethod
  | unresolvedResource
  | invalidRequiredGroup
  | invalidKeyParam
  | missingRowMessage
  | unresolvedReference
  | duplicateHandler
  | unsupportedMethod
deriving DecidableEq, Repr

def Severity.word : Severity → String
  | .warning => "warning"
  | .info => "info"

/-- The place of a severity in the order of reports. -/
def Severity.rank : Severity → Nat
  | .warning => 0
  | .info => 1

namespace DiagnosticKind

/-- Every kind once, in the order of reports. -/
def all : List DiagnosticKind :=
  [.unresolvedField, .unknownFilterType, .unsupportedOperator, .missingSchemaMethod,
   .unresolvedResource, .invalidRequiredGroup, .invalidKeyParam, .missingRowMessage,
   .unresolvedReference, .duplicateHandler, .unsupportedMethod]

def word : DiagnosticKind → String
  | .unresolvedField => "unresolved_field"
  | .unknownFilterType => "unknown_filter_type"
  | .unsupportedOperator => "unsupported_operator"
  | .missingSchemaMethod => "missing_schema_method"
  | .unresolvedResource => "unresolved_resource"
  | .invalidRequiredGroup => "invalid_required_group"
  | .invalidKeyParam => "invalid_key_param"
  | .missingRowMessage => "missing_row_message"
  | .unresolvedReference => "unresolved_reference"
  | .duplicateHandler => "duplicate_handler"
  | .unsupportedMethod => "unsupported_method"

end DiagnosticKind

/-- A report: where, how grave, what kind, and in words. -/
structure Diagnostic where
  location : String
  severity : Severity
  kind : DiagnosticKind
  message : String
deriving DecidableEq, Repr

namespace Diagnostic

def display (d : Diagnostic) : String :=
  "[" ++ d.severity.word ++ "] " ++ d.location ++ ": " ++ d.message ++ " (" ++ d.kind.word ++ ")"

/-- The order of severities, then of kinds. -/
def precedes (a b : Diagnostic) : Bool :=
  let kindRank (d : Diagnostic) := DiagnosticKind.all.idxOf d.kind
  a.severity.rank < b.severity.rank ||
    (a.severity.rank == b.severity.rank && kindRank a ≤ kindRank b)

/-- The block of lines that reports all findings; nothing when there are none. -/
def summary (diagnostics : List Diagnostic) : String :=
  if diagnostics.isEmpty then ""
  else
    let warnings := (diagnostics.filter (·.severity = .warning)).length
    "\n" ++ toString diagnostics.length ++ " diagnostic(s), " ++ toString warnings ++
      " warning(s):\n" ++ String.join (diagnostics.map fun d => "  " ++ d.display ++ "\n")

end Diagnostic

/-- A cause of a report. -/
inductive Finding where
  | notGet
  | noResource (basePath : String)
  | deadReference (reference : String)
  | malformedParameter (fault : ParameterFault)
  | noMethod (kind : MethodKind) (resource : String)
  | noMessages (method : String)
  | noRowField (response : String)
  | noRowMessage (row : String)
  | keyCount (found : Nat)
  | keyWithoutField (parameter request : String)
  | keyWithoutEq (field filterType : String)
  | keyNotPlain (field : String)
  | filterWithoutField (parameter field request : String)
  | unknownFilter (field filterType : String)
  | operatorOnPlainField (parameter : String) (op : Operator) (field : String)
  | operatorNotSupported (filterType : String) (op : Operator) (parameter : String)
  | boundTwice (op : Operator) (field : String)
  | scalarWithoutField (parameter request : String)
  | notPlain (parameter field : String)
  | foreignMembers (group : String) (members : List String) (request : String)
  | emptyGroup (group : String)
  | handlerTaken (handler first : String)

namespace Finding

def kind : Finding → DiagnosticKind
  | notGet => .unsupportedMethod
  | noResource _ => .unresolvedResource
  | deadReference _ | malformedParameter _ => .unresolvedReference
  | noMethod .. | noMessages _ => .missingSchemaMethod
  | noRowField _ | noRowMessage _ => .missingRowMessage
  | keyCount _ | keyWithoutField .. | keyWithoutEq .. | keyNotPlain _ => .invalidKeyParam
  | filterWithoutField .. | scalarWithoutField .. | notPlain .. => .unresolvedField
  | unknownFilter .. => .unknownFilterType
  | operatorOnPlainField .. | operatorNotSupported .. | boundTwice .. => .unsupportedOperator
  | foreignMembers .. | emptyGroup _ => .invalidRequiredGroup
  | handlerTaken .. => .duplicateHandler

/-- Operations that are never generated are no reason to warn. -/
def severity : Finding → Severity
  | notGet => .info
  | _ => .warning

def message : Finding → String
  | notGet => "only GET operations are generated"
  | noResource basePath => "no resource segment after base path '" ++ basePath ++ "'"
  | deadReference reference => "parameter reference '" ++ reference ++ "' does not resolve"
  | malformedParameter fault => "malformed parameter object: " ++ fault.message
  | noMethod kind resource =>
    "no " ++ kind.word ++ " method with request '" ++ kind.requestName resource ++ "' in schema"
  | noMessages method =>
    "messages of method '" ++ method ++ "' are not in the descriptor set"
  | noRowField response => "response '" ++ response ++ "' has no row message field"
  | noRowMessage row => "row message '" ++ row ++ "' is not in the descriptor set"
  | keyCount found => "expected one path parameter, found " ++ toString found
  | keyWithoutField parameter request =>
    "path parameter '" ++ parameter ++ "' has no field in '" ++ request ++ "'"
  | keyWithoutEq field filterType =>
    "key field '" ++ field ++ "' of type '" ++ filterType ++ "' has no eq operator"
  | keyNotPlain field => "key field '" ++ field ++ "' is neither a scalar nor a filter"
  | filterWithoutField parameter field request =>
    "query parameter '" ++ parameter ++ "' targets unknown field '" ++ field ++ "' of '" ++
      request ++ "'"
  | unknownFilter field filterType =>
    "field '" ++ field ++ "' uses unknown filter type '" ++ filterType ++ "'"
  | operatorOnPlainField parameter op field =>
    "query parameter '" ++ parameter ++ "' applies '" ++ op.token ++ "' to non-filter field '" ++
      field ++ "'"
  | operatorNotSupported filterType op parameter =>
    "'" ++ filterType ++ "' does not support '" ++ op.token ++ "' (parameter '" ++ parameter ++ "')"
  | boundTwice op field =>
    "'" ++ op.token ++ "' on field '" ++ field ++ "' is bound twice, keeping the first"
  | scalarWithoutField parameter request =>
    "query parameter '" ++ parameter ++ "' has no field in '" ++ request ++ "'"
  | notPlain parameter field =>
    "query parameter '" ++ parameter ++ "' targets field '" ++ field ++
      "' that is not a plain value"
  | foreignMembers group members request =>
    "required group '" ++ group ++ "' dropped: members " ++ ", ".intercalate members ++
      " do not belong to '" ++ request ++ "'"
  | emptyGroup group => "required group '" ++ group ++ "' has no members"
  | handlerTaken handler first =>
    "handler '" ++ handler ++ "' is already generated for " ++ first

def report (finding : Finding) (location : String) : Diagnostic :=
  ⟨location, finding.severity, finding.kind, finding.message⟩

end Finding

end QuerySynth
