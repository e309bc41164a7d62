/-! # Sorted tables

A table is a list of entries whose keys increase in the order of their code points. Insertion
keeps that order and replaces an entry of the same key, so equal contents are equal lists.
-/

namespace QuerySynth

/-- Entries with their keys; the operations keep the keys strictly increasing. -/
abbrev Keyed (α : Type) := List (String × α)

namespace Keyed

variable {α β : Type}

def Sorted (entries : Keyed α) : Prop :=
  entries.Pairwise fun a b => a.1 < b.1

instance (entries : Keyed α) : Decidable (Sorted entries) :=
  inferInstanceAs (Decidable (entries.Pairwise fun a b => a.1 < b.1))

/-- The value stored under a key. -/
def get? : Keyed α → String → Option α
  | [], _ => none
  | (k, v) :: rest, key => if k = key then some v else get? rest key

def has (entries : Keyed α) (key : String) : Bool :=
  (get? entries key).isSome

/-- Store a value under a key, in place of an earlier one. -/
def insert (key : String) (value : α) : Keyed α → Keyed α
  | [] => [(key, value)]
  | (k, v) :: rest =>
    if key = k then (key, value) :: rest
    else if key < k then (key, value) :: (k, v) :: rest
    else (k, v) :: insert key value rest

def erase (key : String) (entries : Keyed α) : Keyed α :=
  entries.filter fun entry => entry.1 != key

/-- Store all entries of a list, later ones in place of earlier ones. -/
def insertAll (entries : Keyed α) (added : List (String × α)) : Keyed α :=
  added.foldl (fun acc (k, v) => insert k v acc) entries

/-- The table of a list of entries, in which the last entry of a key counts. -/
def ofList (entries : List (String × α)) : Keyed α :=
  insertAll [] entries

def keys (entries : Keyed α) : List String :=
  entries.map (·.1)

def values (entries : Keyed α) : List α :=
  entries.map (·.2)

@[simp] theorem get?_nil (key : String) : get? ([] : Keyed α) key = none := rfl

/-- A stored value is found under its key. -/
theorem get?_insert_self (key : String) (value : α) (entries : Keyed α) :
    get? (insert key value entries) key = some value := by
  induction entries with
  | nil => simp [insert, get?]
  | cons head rest ih =>
    obtain ⟨k, v⟩ := head
    simp only [insert]
    split
    · simp [get?]
    · split
      · simp [get?]
      · rename_i different _
        simp [get?, Ne.symm different, ih]

/-- Storing a value leaves the other keys alone. -/
theorem get?_insert_of_ne {key other : String} (different : other ≠ key) (value : α)
    (entries : Keyed α) : get? (insert key value entries) other = get? entries other := by
  induction entries with
  | nil => simp [insert, get?, Ne.symm different]
  | cons head rest ih =>
    obtain ⟨k, v⟩ := head
    simp only [insert]
    split
    · rename_i same
      subst same
      simp [get?, Ne.symm different]
    · split
      · simp [get?, Ne.symm different]
      · simp [get?, ih]

end Keyed

/-- The distinct members of a list, in increasing order. -/
def sortedNames (names : List String) : List String :=
  Keyed.keys (Keyed.ofList (names.map (·, ())))

end QuerySynth
