import QuerySynth.CommandLine.Basic

/-! # Reading command lines

Arguments are read from left to right. The first one that cannot be read makes the whole line
wrong, unless a request for help or for the version comes before it.
-/

namespace QuerySynth

/-- Why the reading of arguments ends early. -/
inductive ArgumentStop where
  | usage
  | help
  | version
deriving DecidableEq, Repr

/-- The options read so far with what followed them, the latest first. -/
abbrev GivenOptions := List (OptionName × String)

namespace GivenOptions

def get? (given : GivenOptions) (name : OptionName) : Option String :=
  given.lookup name

def has (given : GivenOptions) (name : OptionName) : Bool :=
  (given.get? name).isSome

/-- Take one more option. Only verbosity may be given repeatedly. -/
def take (given : GivenOptions) (name : OptionName) (follower : String) :
    Except ArgumentStop GivenOptions :=
  match name with
  | .help => .error .help
  | .version => .error .version
  | _ =>
    if name ≠ .verbose ∧ given.has name then .error .usage
    else if name.follower = .path ∧ follower = "" then .error .usage
    else .ok ((name, follower) :: given)

def verbosity (given : GivenOptions) : Nat :=
  (given.filter (·.1 = .verbose)).length

end GivenOptions

/-- The form of an argument. -/
inductive Argument where
  /-- Two dashes: no options follow. -/
  | separator
  | long (word : String) (attached : Option String)
  | short (letters : List Char)
  | plain (text : String)
deriving DecidableEq, Repr

/-- The form of an argument; a single dash is a plain one. -/
def Argument.ofText (text : String) : Argument :=
  match text.toList with
  | ['-', '-'] => .separator
  | '-' :: '-' :: rest =>
    match Text.splitOnce? ['='] rest with
    | some (word, attached) => .long (String.ofList word) (some (String.ofList attached))
    | none => .long (String.ofList rest) none
  | '-' :: c :: rest => .short (c :: rest)
  | _ => .plain text

/-- Take an option whose follower, if it needs one, is attached or the next argument. The result
tells whether the next argument was taken. -/
def GivenOptions.takeWith (given : GivenOptions) (name : OptionName) (attached : Option String)
    (next : Option String) : Except ArgumentStop (GivenOptions × Bool) := do
  match name.follower, attached, next.map fun text => (text, Argument.ofText text) with
  | .nothing, none, _ => return (← given.take name "", false)
  | .nothing, some _, _ => .error .usage
  | _, some text, _ => return (← given.take name text, false)
  | _, none, some (text, .plain _) => return (← given.take name text, true)
  | _, none, _ => .error .usage

/-- Take the options of a group of letters. An option that needs a follower takes the letters
after it, without an equals sign in front. -/
def GivenOptions.takeLetters (known : List OptionName) (next : Option String)
    (given : GivenOptions) : List Char → Except ArgumentStop (GivenOptions × Bool)
  | [] => .ok (given, false)
  | c :: rest =>
    match known.find? (·.letter? = some c) with
    | none => .error .usage
    | some name =>
      if name.follower = .nothing then do
        let (given, _) ← given.takeWith name none next
        GivenOptions.takeLetters known next given rest
      else
        let attached := if rest.head? = some '=' then rest.drop 1 else rest
        given.takeWith name (if rest.isEmpty then none else some (String.ofList attached)) next

/-- Take one argument that is an option. -/
def GivenOptions.takeArgument (known : List OptionName) (given : GivenOptions)
    (argument : Argument) (next : Option String) : Except ArgumentStop (GivenOptions × Bool) :=
  match argument with
  | .long word attached =>
    match known.find? (·.word = word) with
    | some name => given.takeWith name attached next
    | none => .error .usage
  | .short letters => given.takeLetters known next letters
  | .separator | .plain _ => .error .usage

def GivenOptions.read (known : List OptionName) (given : GivenOptions) :
    List String → Except ArgumentStop GivenOptions
  | [] => .ok given
  | [text] =>
    if Argument.ofText text = .separator then .ok given
    else (given.takeArgument known (.ofText text) none).map (·.1)
  | text :: next :: rest => do
    let (given, taken) ← given.takeArgument known (.ofText text) (some next)
    if taken then given.read known rest else given.read known (next :: rest)

def GivenOptions.inputs? (given : GivenOptions) : Option RunInputs := do
  return ⟨⟨← given.get? .openapi⟩, ⟨← given.get? .descriptors⟩, given.get? .basePath,
    (given.get? .config).map Path.mk⟩

/-- The command that a name and options ask for. -/
def GivenOptions.command? (given : GivenOptions) : CommandName → Option Command
  | .generate => do
    return .generate (← given.inputs?) ⟨← given.get? .output⟩ (given.has .dryRun)
  | .normalize => do
    return .normalize (← given.inputs?) ⟨← given.get? .output⟩ (given.has .check)
  | .inspect => given.inputs?.map .inspect

/-- Read a command after its name. Its own verbosity counts before that of the whole line. -/
def readCommand (name : CommandName) (general : GivenOptions) (arguments : List String) :
    Except ArgumentStop Request := do
  let given ← GivenOptions.read (OptionName.ofCommand name) [] arguments
  match given.command? name with
  | none => .error .usage
  | some command =>
    let verbosity := if given.has .verbose then given.verbosity else general.verbosity
    return .run command verbosity

/-- Read a command line from the options before the command on. -/
def readLine (general : GivenOptions) : List String → Except ArgumentStop Request
  | [] => .error .usage
  | text :: rest =>
    match Argument.ofText text, CommandName.ofWord? text with
    | .plain _, some name => readCommand name general rest
    | .plain _, none =>
      if text = "help" ∧ (rest.isEmpty ∨
          rest.length = 1 ∧ rest.all fun w => w = "help" ∨ (CommandName.ofWord? w).isSome) then
        .ok .help
      else .error .usage
    | argument, _ => do
      let (general, _) ← general.takeArgument OptionName.general argument none
      readLine general rest

/-- What a command line asks for; none when it cannot be read. -/
def Request.ofArguments? (arguments : List String) : Option Request :=
  match readLine [] arguments with
  | .ok request => some request
  | .error .help => some .help
  | .error .version => some .version
  | .error .usage => none

end QuerySynth
