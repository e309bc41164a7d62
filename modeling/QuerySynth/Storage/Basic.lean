import QuerySynth.Keyed
import QuerySynth.Storage.Path
import QuerySynth.Text.Utf8

/-! # Storage

Files and directories are kept by their places, the lists of names that lead to them from the
root. A run has a home directory, from which relative paths start. Files under temporary names
are kept apart, because no path leads to them.
-/

namespace QuerySynth

/-- The names that lead to an entry from the root. -/
abbrev Place := List String

/-- What a place holds. -/
inductive StoredEntry where
  | file (bytes : List UInt8)
  | directory
deriving DecidableEq, Repr

/-- A file under a temporary name in a directory. -/
structure PendingFile where
  directory : Place
  bytes : List UInt8
deriving DecidableEq, Repr

/-- Why the storage refuses an access. -/
inductive StorageFault where
  | missing
  | occupied
  | notDirectory
  | isDirectory
  | busy
  | full
  | notText
deriving DecidableEq, Repr

def StorageFault.message : StorageFault → String
  | missing => "No such file or directory (os error 2)"
  | occupied => "File exists (os error 17)"
  | notDirectory => "Not a directory (os error 20)"
  | isDirectory => "Is a directory (os error 21)"
  | busy => "Device or resource busy (os error 16)"
  | full => "No space left on device (os error 28)"
  | notText => "stream did not contain valid UTF-8"

/-- The state of the storage. -/
structure Storage where
  /-- The entries with their places, each place once. -/
  entries : List (Place × StoredEntry)
  /-- Where relative paths start. -/
  home : Place
  /-- The temporary files, the oldest first. -/
  pending : List PendingFile
  /-- The targets whose contents the device does not take, and why. -/
  refused : List (Path × StorageFault)
deriving DecidableEq, Repr

namespace Storage

/-- The entry at a place; the root is always a directory. -/
def at? (storage : Storage) (place : Place) : Option StoredEntry :=
  if place = [] then some .directory else storage.entries.lookup place

/-- Put an entry at a place, instead of an earlier one. -/
def putEntry (place : Place) (entry : StoredEntry) :
    List (Place × StoredEntry) → List (Place × StoredEntry)
  | [] => [(place, entry)]
  | (other, old) :: rest =>
    if other = place then (place, entry) :: rest else (other, old) :: putEntry place entry rest

def put (storage : Storage) (place : Place) (entry : StoredEntry) : Storage :=
  { storage with entries := putEntry place entry storage.entries }

/-- A place holds what was put there. -/
theorem lookup_putEntry_self (place : Place) (entry : StoredEntry)
    (entries : List (Place × StoredEntry)) :
    (putEntry place entry entries).lookup place = some entry := by
  induction entries with
  | nil => simp [putEntry]
  | cons head rest ih =>
    obtain ⟨other, old⟩ := head
    by_cases same : other = place
    · simp [putEntry, same]
    · have unequal : (place == other) = false := beq_eq_false_iff_ne.mpr (Ne.symm same)
      simp [putEntry, same, List.lookup_cons, unequal, ih]

/-- The other places hold what they held. -/
theorem lookup_putEntry_of_ne {place other : Place} (different : other ≠ place)
    (entry : StoredEntry) (entries : List (Place × StoredEntry)) :
    (putEntry place entry entries).lookup other = entries.lookup other := by
  have unequal : (other == place) = false := beq_eq_false_iff_ne.mpr different
  induction entries with
  | nil => simp [putEntry, List.lookup_cons, unequal]
  | cons head rest ih =>
    obtain ⟨key, old⟩ := head
    by_cases same : key = place
    · simp [putEntry, same, List.lookup_cons, unequal]
    · simp [putEntry, same, List.lookup_cons, ih]

/-- A place below the root holds what was put there. -/
theorem at?_put_self {place : Place} (below : place ≠ []) (storage : Storage)
    (entry : StoredEntry) : (storage.put place entry).at? place = some entry := by
  simp [at?, put, below, lookup_putEntry_self]

/-- Putting an entry leaves the other places alone. -/
theorem at?_put_of_ne {place other : Place} (different : other ≠ place) (storage : Storage)
    (entry : StoredEntry) : (storage.put place entry).at? other = storage.at? other := by
  simp [at?, put, lookup_putEntry_of_ne different]

def names (storage : Storage) (place : Place) : List String :=
  sortedNames (storage.entries.filterMap fun (other, _) =>
    match Text.dropStem? place other with
    | some [name] => some name
    | _ => none)

/-- Follow names from a directory on; each must lead to a directory. -/
def enter (storage : Storage) (place : Place) : List String → Except StorageFault Place
  | [] => .ok place
  | name :: rest =>
    if name = "." then storage.enter place rest
    else if name = ".." then storage.enter place.dropLast rest
    else
      match storage.at? (place ++ [name]) with
      | none => .error .missing
      | some (.file _) => .error .notDirectory
      | some .directory => storage.enter (place ++ [name]) rest

/-- Where a path starts. -/
def start (storage : Storage) (path : Path) : Place :=
  if path.isAbsolute then [] else storage.home

/-- What a path stands for: a name in a directory, or a directory reached without a name. -/
inductive Target where
  | named (directory : Place) (name : String)
  | directory (place : Place)
deriving DecidableEq, Repr

/-- What a path stands for; all its names but the last must lead to directories. -/
def target (storage : Storage) (path : Path) : Except StorageFault Target :=
  if path.text = "" then .error .missing
  else
    match path.steps.getLast? with
    | none => .ok (.directory (storage.start path))
    | some name => do
      let place ← storage.enter (storage.start path) path.steps.dropLast
      if name = "." then return .directory place
      if name = ".." then return .directory place.dropLast
      return .named place name

def find (storage : Storage) (path : Path) : Except StorageFault StoredEntry := do
  match ← storage.target path with
  | .directory _ => .ok .directory
  | .named place name =>
    match storage.at? (place ++ [name]) with
    | none => .error .missing
    | some .directory => .ok .directory
    | some (.file bytes) => if path.endsInSlash then .error .notDirectory else .ok (.file bytes)

/-- Whether a path leads anywhere. -/
def has (storage : Storage) (path : Path) : Bool :=
  (storage.find path).toBool

def isDirectory (storage : Storage) (path : Path) : Bool :=
  match storage.find path with
  | .ok .directory => true
  | _ => false

def isFile (storage : Storage) (path : Path) : Bool :=
  match storage.find path with
  | .ok (.file _) => true
  | _ => false

def read (storage : Storage) (path : Path) : Except StorageFault (List UInt8) := do
  match ← storage.find path with
  | .directory => .error .isDirectory
  | .file bytes => .ok bytes

/-- The text of a file in UTF-8. -/
def readText (storage : Storage) (path : Path) : Except StorageFault String := do
  match textOfBytes? (← storage.read path) with
  | some text => .ok text
  | none => .error .notText

def list (storage : Storage) (path : Path) : Except StorageFault (List Path) := do
  match ← storage.target path with
  | .directory place => return (storage.names place).map path.join
  | .named place name => return (storage.names (place ++ [name])).map path.join

/-- Make one directory in an existing one. -/
def makeDirectory (storage : Storage) (path : Path) : Except StorageFault Storage := do
  match ← storage.target path with
  | .directory _ => .error .occupied
  | .named place name =>
    if (storage.at? (place ++ [name])).isSome then .error .occupied
    else .ok (storage.put (place ++ [name]) .directory)

/-- Make a directory after its missing parents, which come behind it in the list. What was made
stays, also when a later step is refused. -/
def makeMissing (storage : Storage) : List Path → Storage × Except StorageFault Unit
  | [] => (storage, .ok ())
  | path :: parents =>
    match storage.makeDirectory path with
    | .ok made => (made, .ok ())
    | .error .missing =>
      match storage.makeMissing parents with
      | (outer, .error fault) => (outer, .error fault)
      | (outer, .ok ()) =>
        match outer.makeDirectory path with
        | .ok made => (made, .ok ())
        | .error fault => (outer, if outer.isDirectory path then .ok () else .error fault)
    | .error fault => (storage, if storage.isDirectory path then .ok () else .error fault)

/-- Make a directory with its missing parents, unless it is there. -/
def makeDirectories (storage : Storage) (path : Path) : Storage × Except StorageFault Unit :=
  storage.makeMissing path.withParents

/-- Place an entry below a directory, together with the directories that lead to it. -/
def plantBelow (storage : Storage) (place : Place) (entry : StoredEntry) : List String → Storage
  | [] => storage
  | [name] => storage.put (place ++ [name]) entry
  | name :: rest =>
    let inner := place ++ [name]
    let led := if (storage.at? inner).isSome then storage else storage.put inner .directory
    led.plantBelow inner entry rest

/-- Place an entry together with the directories that lead to it. -/
def plant (storage : Storage) (place : Place) (entry : StoredEntry) : Storage :=
  storage.plantBelow [] entry place

/-- A storage that holds nothing but its home. -/
def ofHome (home : Place) : Storage :=
  (Storage.mk [] home [] []).plant home .directory

/-- The entries that are new or different in a later state, and the places that became empty. -/
def changesTo (before after : Storage) : List (Place × Option StoredEntry) :=
  (after.entries.filterMap fun (place, entry) =>
    if before.at? place = some entry then none else some (place, some entry)) ++
  before.entries.filterMap fun (place, _) =>
    if (after.at? place).isNone then some (place, none) else none

end Storage

end QuerySynth
