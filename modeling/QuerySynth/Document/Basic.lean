import QuerySynth.Keyed
import QuerySynth.Number.Binary64

/-! # Documents

The value of a description: null, truth values, whole and binary numbers, texts, arrays and
objects. An object is a sorted table, so equal objects are equal values.
-/

namespace QuerySynth

/-- A value of a description. -/
inductive Document where
  | null
  | bool (value : Bool)
  | int (value : Int)
  | float (value : Binary64)
  | str (text : String)
  | arr (items : List Document)
  | obj (members : List (String × Document))
deriving Repr, Inhabited

namespace Document

def get? : Document → String → Option Document
  | .obj members, key => Keyed.get? members key
  | _, _ => none

def text? : Document → Option String
  | .str text => some text
  | _ => none

def items? : Document → Option (List Document)
  | .arr items => some items
  | _ => none

def members? : Document → Option (List (String × Document))
  | .obj members => some members
  | _ => none

def textAt? (document : Document) (key : String) : Option String :=
  (document.get? key).bind text?

def isNull : Document → Bool
  | .null => true
  | _ => false

/-- Apply a function to the value of one member of an object. -/
def mapMember (key : String) (f : Document → Document) : Document → Document
  | .obj members => .obj (members.map fun (k, v) => if k = key then (k, f v) else (k, v))
  | other => other

end Document

end QuerySynth
