import QuerySynth.Document.Yaml.Event
import QuerySynth.Document.Yaml.Scalar
import QuerySynth.Document.Yaml.TokenReader

/-! # Reading YAML

The value of the only document of a text. Uses of anchors stand for what the anchor marks; their
number is bounded by that of the events, and so is the depth of the value.
-/

namespace QuerySynth.Yaml

/-- The anchor that an event is marked with. -/
def anchorOf? : Event → Option String
  | .scalar properties _ _ | .sequence properties | .mapping properties => properties.anchor
  | _ => none

/-- Follow the anchors and their uses through the events from a place on. An anchor is known by
the number of different names before it; the event that is marked last under a number counts,
also for earlier uses. The result is the places by number, and the numbers by the place of their
uses. -/
def followAnchors? (place : Nat) (numbers : Keyed Nat) (places uses : List (Nat × Nat)) :
    List Event → Option (List (Nat × Nat) × List (Nat × Nat))
  | [] => some (places, uses)
  | event :: rest =>
    match event, anchorOf? event with
    | .reference name, _ =>
      match numbers.get? name with
      | some number => followAnchors? (place + 1) numbers places ((place, number) :: uses) rest
      | none => none
    | _, some name =>
      let number := numbers.length
      followAnchors? (place + 1) (numbers.insert name number) ((number, place) :: places) uses rest
    | _, none => followAnchors? (place + 1) numbers places uses rest

/-- A document whose uses of anchors are resolved to places. -/
structure Linked where
  events : List Event
  /-- The place that the use at a place stands for. -/
  targets : List (Nat × Nat)

/-- Resolve the uses of anchors. -/
def Linked.ofEvents? (events : List Event) : Option Linked := do
  let (places, uses) ← followAnchors? 0 [] [] [] events
  return ⟨events, uses.filterMap fun (place, number) =>
    (places.lookup number).map (place, ·)⟩

/-- A position in a document: its place, the events from there on, and how many uses of anchors
may still be followed. -/
structure Walk where
  place : Nat
  rest : List Event
  jumps : Nat

namespace Walk

def next (walk : Walk) : Walk :=
  ⟨walk.place + 1, walk.rest.drop 1, walk.jumps⟩

/-- The position that the use of an anchor stands for, one use less being allowed. -/
def follow? (linked : Linked) (walk : Walk) : Option Walk :=
  match walk.jumps, linked.targets.lookup walk.place with
  | jumps + 1, some target => some ⟨target, linked.events.drop target, jumps⟩
  | _, _ => none

def resume (walk done : Walk) : Walk :=
  { walk.next with jumps := done.jumps }

end Walk

/-- The key at a position: the text of a scalar, whatever its tag. -/
def key? (linked : Linked) (walk : Walk) : Option (String × Walk) :=
  match walk.rest with
  | .scalar _ _ text :: _ => some (text, walk.next)
  | .reference _ :: _ =>
    match walk.follow? linked with
    | some target =>
      match target.rest with
      | .scalar _ _ text :: _ => some (text, walk.resume target)
      | _ => none
    | none => none
  | _ => none

mutual

/-- The value at a position. `depth` bounds the collections around each other, `fuel` the
steps. -/
def value? (linked : Linked) (fuel depth : Nat) (walk : Walk) : Option (Document × Walk) :=
  match fuel with
  | 0 => none
  | fuel + 1 =>
    match walk.rest with
    | .scalar properties plain text :: _ =>
      (scalarDocument? properties.tag plain text).map fun value => (value, walk.next)
    | .reference _ :: _ =>
      match walk.follow? linked with
      | none => none
      | some target =>
        (value? linked fuel depth target).map fun (value, done) => (value, walk.resume done)
    | .sequence properties :: _ =>
      if depth = 0 || properties.tag.any isLocalTag then none
      else
        (items? linked fuel (depth - 1) walk.next).map fun (items, walk) => (.arr items, walk)
    | .mapping properties :: _ =>
      if depth = 0 || properties.tag.any isLocalTag then none
      else
        (members? linked fuel (depth - 1) walk.next).map fun (members, walk) =>
          (.obj (Keyed.ofList members), walk)
    | _ => none

def items? (linked : Linked) (fuel depth : Nat) (walk : Walk) : Option (List Document × Walk) :=
  match fuel with
  | 0 => none
  | fuel + 1 =>
    match walk.rest with
    | .close :: _ => some ([], walk.next)
    | _ =>
      match value? linked fuel depth walk with
      | none => none
      | some (item, walk) =>
        (items? linked fuel depth walk).map fun (items, walk) => (item :: items, walk)

def members? (linked : Linked) (fuel depth : Nat) (walk : Walk) :
    Option (List (String × Document) × Walk) :=
  match fuel with
  | 0 => none
  | fuel + 1 =>
    match walk.rest with
    | .close :: _ => some ([], walk.next)
    | _ =>
      match key? linked walk with
      | none => none
      | some (key, walk) =>
        match value? linked fuel depth walk with
        | none => none
        | some (value, walk) =>
          (members? linked fuel depth walk).map fun (members, walk) =>
            ((key, value) :: members, walk)

end

/-- How many collections may stand around each other. -/
def maxDepth : Nat := 128

/-- How often anchors may be used, for each event. -/
def usesPerEvent : Nat := 100

/-- The value of a document; a text without a document is null. -/
def documentOf? (events : List Event) : Option Document :=
  match events with
  | [] => some .null
  | _ => do
    let linked ← Linked.ofEvents? events
    let jumps := usesPerEvent * events.length
    let fuel := (jumps + 1) * (2 * events.length + 2)
    let (value, _) ← value? linked fuel maxDepth ⟨0, events, jumps⟩
    return value

def read? (text : String) : Option Document := do
  documentOf? (← Event.ofTokens? (← tokensOf? text.toList))

end QuerySynth.Yaml
