import QuerySynth.Document.JsonToken

/-! # Reading JSON

The reader consumes tokens with a stack of open containers. Of several members with one key the
last counts; containers may be nested 127 deep.
-/

namespace QuerySynth.Json

/-- An open container. Items are kept last first; `key` is the member being read. -/
inductive Frame where
  | array (items : List Document)
  | object (members : List (String × Document)) (key : String)

/-- What may come next. -/
inductive Expectation where
  /-- A value; a closing bracket too when the array is still empty. -/
  | value (closable : Bool)
  /-- A key; a closing brace too when the object is still empty. -/
  | key (closable : Bool)
  | colon
  /-- A comma or the end of the container. -/
  | separator
  | finished (document : Document)

/-- The open containers, innermost first, and what may come next. -/
structure Reading where
  frames : List Frame
  expected : Expectation

/-- The greatest number of nested containers. -/
def maxDepth : Nat := 127

/-- Put a finished value where it belongs. -/
def deliver (document : Document) : List Frame → Reading
  | [] => ⟨[], .finished document⟩
  | .array items :: rest => ⟨.array (document :: items) :: rest, .separator⟩
  | .object members key :: rest =>
    ⟨.object (Keyed.insert key document members) key :: rest, .separator⟩

/-- Open a container. -/
def enter (frame : Frame) (expected : Expectation) (frames : List Frame) : Option Reading :=
  if frames.length < maxDepth then some ⟨frame :: frames, expected⟩ else none

def leaveArray : List Frame → Option Reading
  | .array items :: rest => some (deliver (.arr items.reverse) rest)
  | _ => none

def leaveObject : List Frame → Option Reading
  | .object members _ :: rest => some (deliver (.obj members) rest)
  | _ => none

/-- Consume one token. -/
def step (reading : Reading) (token : Token) : Option Reading :=
  match reading.expected, token with
  | .value _, .openArray => enter (.array []) (.value true) reading.frames
  | .value _, .openObject => enter (.object [] "") (.key true) reading.frames
  | .value _, .scalar value => some (deliver value reading.frames)
  | .value true, .closeArray => leaveArray reading.frames
  | .key _, .scalar (.str key) =>
    match reading.frames with
    | .object members _ :: rest => some ⟨.object members key :: rest, .colon⟩
    | _ => none
  | .key true, .closeObject => leaveObject reading.frames
  | .colon, .colon => some ⟨reading.frames, .value false⟩
  | .separator, .comma =>
    match reading.frames with
    | .array _ :: _ => some ⟨reading.frames, .value false⟩
    | .object _ _ :: _ => some ⟨reading.frames, .key false⟩
    | [] => none
  | .separator, .closeArray => leaveArray reading.frames
  | .separator, .closeObject => leaveObject reading.frames
  | _, _ => none

/-- The document that a JSON text stands for. -/
def read? (text : String) : Option Document := do
  let final ← (← tokens? text).foldlM step ⟨[], .value false⟩
  match final.expected with
  | .finished document => some document
  | _ => none

end QuerySynth.Json
