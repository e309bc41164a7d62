import QuerySynth.Code.ModulePath
import QuerySynth.Code.Printer
import QuerySynth.Generate.Fault

/-! # The surroundings of generated code

Generated modules import the message types, the run-time support and the query builders from
modules that the settings name.
-/

namespace QuerySynth

/-- The modules around the generated code, and the page size of requests that give none. -/
structure Surroundings where
  messages : Code.ModulePath
  support : Code.ModulePath
  queries : Code.ModulePath
  defaultPageSize : Nat
deriving DecidableEq, Repr

namespace Surroundings

/-- A module path of the settings. -/
def modulePath (text : String) : Except GenerateFault Code.ModulePath :=
  match Code.ModulePath.ofText? text with
  | some path => .ok path
  | none => .error (.invalidModulePath text)

/-- The surroundings that three texts name. -/
def ofTexts (messages support queries : String) (defaultPageSize : Nat) :
    Except GenerateFault Surroundings := do
  return ⟨← modulePath messages, ← modulePath support, ← modulePath queries, defaultPageSize⟩

def messageImport (around : Surroundings) : Code.Item :=
  around.messages.bring "pb"

def imports (around : Surroundings) : List Code.Item :=
  [around.messageImport, around.support.bring "runtime", around.queries.bring "queries"]

end Surroundings

/-- The text of a generated module that imports the given modules. -/
def finish (imported : List Code.ModulePath) (module : Code.Module) :
    Except GenerateFault String :=
  if imported.all (·.isImportable) then .ok module.render else .error .illegalCode

end QuerySynth
