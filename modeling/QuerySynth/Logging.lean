import QuerySynth.Keyed
import QuerySynth.Text.Blank
import QuerySynth.Text.Case
import QuerySynth.Text.Digit

/-! # Log settings

What the environment and the command line say about logging: a level, a format, directives for
single targets, and whether places in the code are told. A directive that cannot be read is
reported and left out.
-/

namespace QuerySynth

/-- How log lines are written. -/
inductive LogFormat where
  | json | pretty
deriving DecidableEq, Repr

/-- The settings of the log. -/
structure LogSettings where
  level : String := "info"
  format : LogFormat := .pretty
  targetFilter : Option String := none
  includeLocation : Bool := false
deriving DecidableEq, Repr

namespace LogSettings

/-- The format that a word names, in any case; every other word names the default. -/
def formatOf (word : String) : LogFormat :=
  if word.toList.map Char.toLower = "json".toList then .json else .pretty

/-- The settings that environment variables give. -/
def ofEnvironment (environment : Keyed String) : LogSettings :=
  let defaults : LogSettings := {}
  { level := (environment.get? "QUERYGEN_LOG_LEVEL").getD defaults.level
    format := ((environment.get? "QUERYGEN_LOG_FORMAT").map formatOf).getD defaults.format
    targetFilter := environment.get? "QUERYGEN_LOG_TARGET_FILTER"
    includeLocation := environment.get? "QUERYGEN_LOG_INCLUDE_LOCATION" = some "true" }

/-- A verbose run logs at the level `debug`, a more verbose one at `trace`. -/
def withVerbosity (settings : LogSettings) : Nat → LogSettings
  | 0 => settings
  | 1 => { settings with level := "debug" }
  | _ => { settings with level := "trace" }

end LogSettings

namespace LogDirective

/-- Whether a word is a level: a name in any case, or a number up to five. -/
def isLevel (word : List Char) : Bool :=
  ["error", "warn", "info", "debug", "trace", "off"].any
      (fun name => word.map Char.toLower = name.toList) ||
    match Text.digits? 10 (if word.head? = some '+' then word.drop 1 else word) with
    | some n => n ≤ 5
    | none => false

/-- What has been read of a directive. -/
inductive Part where
  /-- A level or the start of a target. -/
  | name
  | span
  /-- A field of a span, and whether nothing of it was read. -/
  | field (blank : Bool)
  | afterFields
  | afterSpan
  /-- The level after an equals sign, last character first. -/
  | level (read : List Char)

/-- The part that the first character starts. -/
def first? (c : Char) : Option Part :=
  if c = '[' then some .span
  else if c = '-' || c = ':' || c = '_' || Text.isAlphanumeric c then some .name
  else none

/-- Read one more character. -/
def Part.next? (part : Part) (c : Char) : Option Part :=
  match part with
  | .name => some (if c = '=' then .level [] else if c = '[' then .span else .name)
  | .span => some (if c = ']' then .afterSpan else if c = '\x7b' then .field true else .span)
  | .field blank => if c = '\x7d' then (if blank then none else some .afterFields)
      else some (.field false)
  | .afterFields => if c = ']' then some .afterSpan else none
  | .afterSpan => if c = '=' then some (.level []) else none
  | .level read => some (.level (c :: read))

/-- Whether a directive may end here. -/
def Part.isEnd : Part → Bool
  | .name | .afterSpan => true
  | .level read => read.isEmpty || isLevel read.reverse
  | .span | .field _ | .afterFields => false

def isDirective : List Char → Bool
  | [] => false
  | c :: rest => (((first? c).bind fun part => rest.foldlM Part.next? part).any Part.isEnd)

end LogDirective

/-- The directives of a filter that cannot be read, in order. -/
def LogSettings.badDirectives (settings : LogSettings) : List String :=
  let directives := (Text.splitOn ',' (settings.targetFilter.getD "").toList).map Text.trim
  ((directives.filter fun d => !d.isEmpty && !LogDirective.isDirective d)).map String.ofList

end QuerySynth
