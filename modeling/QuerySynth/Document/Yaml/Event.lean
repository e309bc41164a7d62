import QuerySynth.Document.Yaml.Token
import QuerySynth.Keyed

/-! # Events of YAML text

A document as a row of events: scalars, uses of anchors, and the starts and ends of collections.
The grammar reads them off the tokens; what is left out counts as an empty plain scalar.
-/

namespace QuerySynth.Yaml

/-- The anchor and the tag of a node. -/
structure Properties where
  anchor : Option String := none
  tag : Option String := none
deriving DecidableEq, Repr, Inhabited

/-- A part of a document. -/
inductive Event where
  | reference (name : String)
  | scalar (properties : Properties) (plain : Bool) (text : String)
  | sequence (properties : Properties)
  | mapping (properties : Properties)
  /-- The end of the innermost open collection. -/
  | close
deriving DecidableEq, Repr, Inhabited

namespace Event

def empty : Event := .scalar {} true ""

/-- Events with the tokens after them. -/
abbrev Parsed := List Event × List Token

/-- The handles that need no declaration. -/
def standardHandles : Keyed String :=
  Keyed.ofList [("!", "!"), ("!!", "tag:yaml.org,2002:")]

def fullTag? (handles : Keyed String) (handle suffix : String) : Option String :=
  if handle.isEmpty then some suffix else (handles.get? handle).map (· ++ suffix)

/-- The properties before a node, in either order, each at most once. -/
def properties? (handles : Keyed String) : List Token → Option (Properties × List Token)
  | .anchor name :: .tag handle suffix :: rest | .tag handle suffix :: .anchor name :: rest =>
    (fullTag? handles handle suffix).map fun tag => (⟨some name, some tag⟩, rest)
  | .anchor name :: rest => some (⟨some name, none⟩, rest)
  | .tag handle suffix :: rest =>
    (fullTag? handles handle suffix).map fun tag => (⟨none, some tag⟩, rest)
  | rest => some ({}, rest)

/-- A scalar; the tag that only says "no plain scalar" is taken as read. -/
def ofScalar (properties : Properties) (plain : Bool) (text : String) : Event :=
  .scalar { properties with tag := properties.tag.filter (· != "!") } plain text

/-- Whether the tokens start with none of those that end a node of a block mapping. -/
def startsBlockNode : List Token → Bool
  | .key :: _ | .value :: _ | .blockEnd :: _ => false
  | _ => true

/-- Whether the tokens start with a node of a bracketed mapping. -/
def startsMappingNode : List Token → Bool
  | .value :: _ | .comma :: _ | .closeMapping :: _ => false
  | _ => true

/-- Whether the tokens start with a node of a bracketed sequence. -/
def startsSequenceNode : List Token → Bool
  | .value :: _ | .comma :: _ | .closeSequence :: _ => false
  | _ => true

mutual

/-- A node. `block` allows block collections, `dashes` a sequence without indentation. -/
def node? (fuel : Nat) (handles : Keyed String) (block dashes : Bool) (tokens : List Token) :
    Option Parsed :=
  match fuel with
  | 0 => none
  | fuel + 1 =>
    match tokens with
    | .reference name :: rest => some ([.reference name], rest)
    | _ =>
      match properties? handles tokens with
      | none => none
      | some (properties, .scalar plain text :: rest) =>
        some ([ofScalar properties plain text], rest)
      | some (properties, .openSequence :: rest) =>
        (flowItems? fuel handles true rest).map fun (events, rest) =>
          (.sequence properties :: events, rest)
      | some (properties, .openMapping :: rest) =>
        (flowMembers? fuel handles true rest).map fun (events, rest) =>
          (.mapping properties :: events, rest)
      | some (properties, .entry :: rest) =>
        if dashes then
          (dashItems? fuel handles (.entry :: rest)).map fun (events, rest) =>
            (.sequence properties :: events, rest)
        else omitted? properties (.entry :: rest)
      | some (properties, .blockSequence :: rest) =>
        if block then
          (blockItems? fuel handles rest).map fun (events, rest) =>
            (.sequence properties :: events, rest)
        else omitted? properties (.blockSequence :: rest)
      | some (properties, .blockMapping :: rest) =>
        if block then
          (blockMembers? fuel handles rest).map fun (events, rest) =>
            (.mapping properties :: events, rest)
        else omitted? properties (.blockMapping :: rest)
      | some (properties, rest) => omitted? properties rest

/-- A node that is left out; its properties have to stand for it. -/
def omitted? (properties : Properties) (tokens : List Token) : Option Parsed :=
  if properties.anchor.isSome || properties.tag.isSome then
    some ([.scalar properties true ""], tokens)
  else none

/-- The items of a block sequence and its end. -/
def blockItems? (fuel : Nat) (handles : Keyed String) (tokens : List Token) : Option Parsed :=
  match fuel with
  | 0 => none
  | fuel + 1 =>
    match tokens with
    | .blockEnd :: rest => some ([.close], rest)
    | .entry :: rest =>
      let item :=
        match rest with
        | .entry :: _ | .blockEnd :: _ => some ([empty], rest)
        | _ => node? fuel handles true false rest
      match item with
      | none => none
      | some (events, rest) =>
        (blockItems? fuel handles rest).map fun (more, rest) => (events ++ more, rest)
    | _ => none

/-- The items of a sequence without indentation, which ends where no dash follows. -/
def dashItems? (fuel : Nat) (handles : Keyed String) (tokens : List Token) : Option Parsed :=
  match fuel with
  | 0 => none
  | fuel + 1 =>
    match tokens with
    | .entry :: rest =>
      let item :=
        match rest with
        | .entry :: _ => some ([empty], rest)
        | _ =>
          if startsBlockNode rest then node? fuel handles true false rest
          else some ([empty], rest)
      match item with
      | none => none
      | some (events, rest) =>
        (dashItems? fuel handles rest).map fun (more, rest) => (events ++ more, rest)
    | _ => some ([.close], tokens)

/-- The members of a block mapping and its end. -/
def blockMembers? (fuel : Nat) (handles : Keyed String) (tokens : List Token) : Option Parsed :=
  match fuel with
  | 0 => none
  | fuel + 1 =>
    match tokens with
    | .blockEnd :: rest => some ([.close], rest)
    | .key :: rest =>
      match blockPart? fuel handles rest with
      | none => none
      | some (key, rest) =>
        let value :=
          match rest with
          | .value :: rest => blockPart? fuel handles rest
          | _ => some ([empty], rest)
        match value with
        | none => none
        | some (value, rest) =>
          (blockMembers? fuel handles rest).map fun (more, rest) => (key ++ value ++ more, rest)
    | _ => none

/-- A key or value of a block mapping. -/
def blockPart? (fuel : Nat) (handles : Keyed String) (tokens : List Token) : Option Parsed :=
  match fuel with
  | 0 => none
  | fuel + 1 =>
    if startsBlockNode tokens then node? fuel handles true true tokens
    else some ([empty], tokens)

/-- The items of a bracketed sequence and its end; before all but the first a comma stands. -/
def flowItems? (fuel : Nat) (handles : Keyed String) (first : Bool) (tokens : List Token) :
    Option Parsed :=
  match fuel with
  | 0 => none
  | fuel + 1 =>
    match tokens with
    | .closeSequence :: rest => some ([.close], rest)
    | _ =>
      let tokens :=
        if first then some tokens
        else
          match tokens with
          | .comma :: rest => some rest
          | _ => none
      match tokens with
      | none => none
      | some (.closeSequence :: rest) => some ([.close], rest)
      | some (.key :: rest) =>
        match flowPair? fuel handles rest with
        | none => none
        | some (pair, rest) =>
          (flowItems? fuel handles false rest).map fun (more, rest) =>
            (.mapping {} :: pair ++ .close :: more, rest)
      | some tokens =>
        match node? fuel handles false false tokens with
        | none => none
        | some (item, rest) =>
          (flowItems? fuel handles false rest).map fun (more, rest) => (item ++ more, rest)

/-- The key and the value of a mapping of one member within a bracketed sequence. Where the key
is left out, the token in its place is passed over. -/
def flowPair? (fuel : Nat) (handles : Keyed String) (tokens : List Token) : Option Parsed :=
  match fuel with
  | 0 => none
  | fuel + 1 =>
    let key :=
      if startsSequenceNode tokens then node? fuel handles false false tokens
      else some ([empty], tokens.drop 1)
    match key with
    | none => none
    | some (key, .value :: rest) =>
      match rest with
      | .comma :: _ | .closeSequence :: _ => some (key ++ [empty], rest)
      | _ => (node? fuel handles false false rest).map fun (value, rest) => (key ++ value, rest)
    | some (key, rest) => some (key ++ [empty], rest)

/-- The members of a bracketed mapping and its end; before all but the first a comma stands. -/
def flowMembers? (fuel : Nat) (handles : Keyed String) (first : Bool) (tokens : List Token) :
    Option Parsed :=
  match fuel with
  | 0 => none
  | fuel + 1 =>
    match tokens with
    | .closeMapping :: rest => some ([.close], rest)
    | _ =>
      let tokens :=
        if first then some tokens
        else
          match tokens with
          | .comma :: rest => some rest
          | _ => none
      match tokens with
      | none => none
      | some (.closeMapping :: rest) => some ([.close], rest)
      | some tokens =>
        match flowMember? fuel handles tokens with
        | none => none
        | some (member, rest) =>
          (flowMembers? fuel handles false rest).map fun (more, rest) => (member ++ more, rest)

/-- A member of a bracketed mapping; a lone node is a key without a value. -/
def flowMember? (fuel : Nat) (handles : Keyed String) (tokens : List Token) : Option Parsed :=
  match fuel with
  | 0 => none
  | fuel + 1 =>
    match tokens with
    | .key :: rest =>
      let key :=
        if startsMappingNode rest then node? fuel handles false false rest
        else some ([empty], rest)
      match key with
      | none => none
      | some (key, .value :: rest) =>
        match rest with
        | .comma :: _ | .closeMapping :: _ => some (key ++ [empty], rest)
        | _ => (node? fuel handles false false rest).map fun (value, rest) => (key ++ value, rest)
      | some (key, rest) => some (key ++ [empty], rest)
    | _ => (node? fuel handles false false tokens).map fun (key, rest) => (key ++ [empty], rest)

end

/-- The directives before a document: the handles in force and what follows. The version may be
given once and has to be 1.1 or 1.2; no handle may be declared twice. -/
def directives? (version : Bool) (declared : Keyed String) :
    List Token → Option (Keyed String × List Token)
  | .version major minor :: rest =>
    if version || major ≠ 1 || (minor ≠ 1 && minor ≠ 2) then none
    else directives? true declared rest
  | .handle handle leading :: rest =>
    if declared.has handle then none
    else directives? version (declared.insert handle leading) rest
  | rest => some (standardHandles.insertAll declared, rest)

/-- Whether the tokens start a document without a mark. -/
def startsBare : List Token → Bool
  | [] | .version .. :: _ | .handle .. :: _ | .documentStart :: _ => false
  | _ => true

/-- The content of a document after its mark. -/
def content? (fuel : Nat) (handles : Keyed String) (tokens : List Token) : Option Parsed :=
  match tokens with
  | [] | .version .. :: _ | .handle .. :: _ | .documentStart :: _ | .documentEnd :: _ =>
    some ([empty], tokens)
  | _ => node? fuel handles true false tokens

/-- The first document and the tokens after it; an empty text has none. -/
def document? (tokens : List Token) : Option Parsed :=
  let fuel := 4 * tokens.length + 4
  match tokens with
  | [] => some ([], [])
  | _ =>
    if startsBare tokens then node? fuel standardHandles true false tokens
    else
      match directives? false [] tokens with
      | some (handles, .documentStart :: rest) => content? fuel handles rest
      | _ => none

/-- The events of the only document. A second document is refused. -/
def ofTokens? (tokens : List Token) : Option (List Event) :=
  match document? tokens with
  | some (events, rest) =>
    if (rest.dropWhile (· == .documentEnd)).isEmpty then some events else none
  | none => none

end Event

end QuerySynth.Yaml
