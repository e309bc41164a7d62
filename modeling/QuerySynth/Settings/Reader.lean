import QuerySynth.Settings.Basic
import QuerySynth.Storage.Basic
import QuerySynth.Toml.Table

/-! # Settings files

Settings are read from a table with the keys below and no others; what is not given keeps its
default. The file is the one that is named, else the one beside the description, if there is one.
-/

namespace QuerySynth

/-- Why settings cannot be had. -/
inductive SettingsFault where
  /-- The text is not a table of the known keys with values of their types. -/
  | malformed
  | zeroPageSize
  | unreadable (path : Path) (cause : StorageFault)
  | inFile (path : Path) (cause : SettingsFault)
deriving DecidableEq, Repr

namespace SettingsFault

/-- The words of a fault, the outermost context first. A malformed text has no words of its own. -/
def contexts : SettingsFault → List String
  | malformed => []
  | zeroPageSize => ["default_page_size must be positive"]
  | unreadable path cause => ["Failed to read generator config: " ++ path.text, cause.message]
  | inFile path cause => ("Failed to parse generator config: " ++ path.text) :: cause.contexts

/-- The message of a fault, if it has words. -/
def message? (fault : SettingsFault) : Option String :=
  if fault.contexts.isEmpty then none else some (": ".intercalate fault.contexts)

end SettingsFault

namespace Settings

/-- The settings with one of them changed; none for an unknown key or a value of another type. -/
def set? (settings : Settings) : String → Toml.Value → Option Settings
  | "proto_module", .text path => some { settings with messageModule := path }
  | "runtime_module", .text path => some { settings with supportModule := path }
  | "queries_module", .text path => some { settings with queryModule := path }
  | "page_size_param", .text name => some { settings with pageSizeField := name }
  | "required_group_extension", .text name => some { settings with groupOption := name }
  | "base_path", .text path => some { settings with basePath := some path }
  | "default_page_size", .integer size =>
    if 0 ≤ size ∧ size < Int.pow 2 32 then some { settings with defaultPageSize := size.toNat } else none
  | _, _ => none

/-- The settings that the entries of a table give. -/
def ofTable? (entries : List (String × Toml.Value)) : Option Settings :=
  entries.foldlM (fun settings (key, value) => settings.set? key value) {}

def ofText (text : String) : Except SettingsFault Settings :=
  match (Toml.table? text).bind ofTable? with
  | none => .error .malformed
  | some settings =>
    if settings.defaultPageSize = 0 then .error .zeroPageSize else .ok settings

def fileName : String := "querygen.toml"

end Settings

namespace Storage

def loadSettings (storage : Storage) (path : Path) : Except SettingsFault Settings :=
  match storage.readText path with
  | .error cause => .error (.unreadable path cause)
  | .ok text => (Settings.ofText text).mapError (.inFile path)

def settingsBeside? (storage : Storage) (description : Path) : Option Path := do
  let path := (← description.parent?).join Settings.fileName
  if storage.has path then some path else none

/-- The settings of a run: of the file that is named, else of the one beside the description, else
the defaults. -/
def resolveSettings (storage : Storage) (named : Option Path) (description : Path) :
    Except SettingsFault Settings :=
  match named.or (storage.settingsBeside? description) with
  | some path => storage.loadSettings path
  | none => .ok {}

end Storage

end QuerySynth
