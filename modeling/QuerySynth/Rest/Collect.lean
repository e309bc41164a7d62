import QuerySynth.Diagnostic
import QuerySynth.Document.Pointer

/-! # Parameters of an operation

The parameters of a path item come before those of its operation; a later parameter of the same
name and location takes the place of an earlier one.
-/

namespace QuerySynth.Rest

/-- The parameter entries of a path item or an operation. -/
def entriesOf (holder : Option Document) : List Document :=
  ((holder.bind (·.get? "parameters")).bind Document.items?).getD []

def parameterEntries (document : Document) (path method : String) : List Document :=
  let item := (document.get? "paths").bind (·.get? path)
  entriesOf item ++ entriesOf (item.bind (·.get? method))

/-- The parameter of an entry, through its reference if it is one. -/
def readEntry (document entry : Document) : Except Finding RawParameter :=
  let target : Except Finding Document :=
    match entry.textAt? "$ref" with
    | none => .ok entry
    | some reference =>
      match document.resolve? reference with
      | some found => .ok found
      | none => .error (.deadReference reference)
  match target with
  | .error finding => .error finding
  | .ok found =>
    match RawParameter.ofDocument found with
    | .ok raw => .ok raw
    | .error fault => .error (.malformedParameter fault)

/-- Put a parameter at the end, in place of one of the same name and location. -/
def putParameter (collected : List RawParameter) (raw : RawParameter) : List RawParameter :=
  collected.filter (fun old => !(old.name == raw.name && old.location == raw.location)) ++ [raw]

/-- The parameters of an operation and what was wrong with its entries. -/
def collect (document : Document) (path method : String) : List RawParameter × List Finding :=
  (parameterEntries document path method).foldl
    (fun (collected, findings) entry =>
      match readEntry document entry with
      | .ok raw => (putParameter collected raw, findings)
      | .error finding => (collected, findings ++ [finding]))
    ([], [])

end QuerySynth.Rest
