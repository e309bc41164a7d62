import QuerySynth.Run.Basic

/-! # Commands

What a command line can ask for, and the options that it is written with.
-/

namespace QuerySynth

/-- A command with its inputs. -/
inductive Command where
  | generate (inputs : RunInputs) (output : Path) (dryRun : Bool)
  | normalize (inputs : RunInputs) (output : Path) (check : Bool)
  | inspect (inputs : RunInputs)
deriving DecidableEq, Repr

/-- What a command line asks for. -/
inductive Request where
  | run (command : Command) (verbosity : Nat)
  | help
  | version
deriving DecidableEq, Repr

/-- The commands by name. -/
inductive CommandName where
  | generate | normalize | inspect
deriving DecidableEq, Repr

def CommandName.word : CommandName → String
  | generate => "generate"
  | normalize => "normalize"
  | inspect => "inspect"

def CommandName.ofWord? (word : String) : Option CommandName :=
  [CommandName.generate, .normalize, .inspect].find? (·.word == word)

/-- The options. -/
inductive OptionName where
  | verbose | help | version
  | openapi | descriptors | basePath | config
  | output | dryRun | check
deriving DecidableEq, Repr

namespace OptionName

def word : OptionName → String
  | verbose => "verbose"
  | help => "help"
  | version => "version"
  | openapi => "openapi"
  | descriptors => "descriptors"
  | basePath => "base-path"
  | config => "config"
  | output => "output"
  | dryRun => "dry-run"
  | check => "check"

def letter? : OptionName → Option Char
  | verbose => some 'v'
  | help => some 'h'
  | version => some 'V'
  | output => some 'o'
  | _ => none

/-- What has to follow an option. -/
inductive Follower where
  | nothing
  | path
  | anyText
deriving DecidableEq, Repr

/-- What has to follow an option; a path is never empty. -/
def follower : OptionName → Follower
  | openapi | descriptors | config | output => .path
  | basePath => .anyText
  | _ => .nothing

/-- The options before a command. -/
def general : List OptionName := [verbose, help, version]

/-- The options after a command. -/
def ofCommand : CommandName → List OptionName
  | .generate => [verbose, help, openapi, descriptors, basePath, config, output, dryRun]
  | .normalize => [verbose, help, openapi, descriptors, basePath, config, output, check]
  | .inspect => [verbose, help, openapi, descriptors, basePath, config]

end OptionName

end QuerySynth
