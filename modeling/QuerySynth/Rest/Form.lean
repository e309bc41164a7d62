import QuerySynth.Document.Basic
import QuerySynth.Rest.Url

/-! # Forms of documents

A form says which documents a place in a description admits. Records are named parts of a
grammar, so that a part may contain itself; members that a part does not name are not looked at.
-/

namespace QuerySynth.Rest

/-- What a place admits; `π` names the parts of a grammar. -/
inductive Form (π : Type) where
  | anything
  | text
  | flag
  | number
  /-- A whole number from zero on. -/
  | count
  /-- A text that is an absolute address. -/
  | address
  /-- One of some words. -/
  | word (allowed : List String)
  | list (item : Form π)
  | table (value : Form π)
  /-- Null, or what the form admits. -/
  | optional (form : Form π)
  | either (first second : Form π)
  | part (name : π)

/-- A member of a part. -/
structure MemberForm (π : Type) where
  key : String
  required : Bool
  form : Form π

/-- The members of every part. -/
abbrev Grammar (π : Type) := π → List (MemberForm π)

variable {π : Type}

/-- The word of a text, or of an object with that word as its only key and null under it. -/
def wordOf? : Document → Option String
  | .str text => some text
  | .obj [(key, .null)] => some key
  | _ => none

/-- Whether a document without containers meets a form without parts. -/
def meetsLeaf : Form π → Document → Bool
  | .anything, _ => true
  | .text, .str _ => true
  | .flag, .bool _ => true
  | .number, .int _ => true
  | .number, .float _ => true
  | .count, .int value => 0 ≤ value
  | .address, .str text => isAddress text
  | .word allowed, document => (wordOf? document).any allowed.contains
  | _, _ => false

mutual

def Form.admits (grammar : Grammar π) (form : Form π) (document : Document) : Bool :=
  match form, document with
  | .optional _, .null => true
  | .optional inner, document => inner.admits grammar document
  | .either first second, document =>
    first.admits grammar document || second.admits grammar document
  | .list item, .arr items => admitsAll grammar item items
  | .table value, .obj members => admitsValues grammar value members
  | .part name, .obj members =>
    (grammar name).all (fun member => !member.required || Keyed.has members member.key) &&
      admitsMembers grammar (grammar name) members
  | form, document => meetsLeaf form document
termination_by (sizeOf document, sizeOf form)

def admitsAll (grammar : Grammar π) (item : Form π) (items : List Document) : Bool :=
  match items with
  | [] => true
  | first :: rest => item.admits grammar first && admitsAll grammar item rest
termination_by (sizeOf items, 0)

def admitsValues (grammar : Grammar π) (value : Form π) (members : List (String × Document)) :
    Bool :=
  match members with
  | [] => true
  | (_, first) :: rest => value.admits grammar first && admitsValues grammar value rest
termination_by (sizeOf members, 0)

/-- Whether the members that a part names meet their forms. -/
def admitsMembers (grammar : Grammar π) (forms : List (MemberForm π))
    (members : List (String × Document)) : Bool :=
  match members with
  | [] => true
  | (key, first) :: rest =>
    (match forms.find? (·.key == key) with
      | some member => member.form.admits grammar first
      | none => true) &&
    admitsMembers grammar forms rest
termination_by (sizeOf members, 0)

end

end QuerySynth.Rest
