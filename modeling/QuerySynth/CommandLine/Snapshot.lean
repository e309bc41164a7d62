import QuerySynth.CommandLine.Basic

/-! # What a command can see

The places that a command looks at are known from its arguments, so the storage that it runs on
need not hold anything else.
-/

namespace QuerySynth

/-- The places that following a path passes, the first one first. -/
def Storage.placesOn (storage : Storage) (path : Path) : List Place :=
  follow (storage.start path) path.steps
where
  follow (place : Place) : List String → List Place
    | [] => [place]
    | name :: rest =>
      let next :=
        if name = "." then place else if name = ".." then place.dropLast else place ++ [name]
      place :: follow next rest

namespace Command

def inputs : Command → RunInputs
  | generate inputs _ _ | normalize inputs _ _ | inspect inputs => inputs

def targets : Command → List Path
  | generate _ output _ => generatedNames.map output.join
  | normalize _ output _ => [output]
  | inspect _ => []

/-- The paths that a command looks at, besides what is in the directory of its schema. -/
def paths (command : Command) : List Path :=
  let inputs := command.inputs
  [inputs.description, inputs.schema] ++ inputs.settings.toList ++
    (inputs.description.parent?.toList.map (·.join Settings.fileName)) ++ command.targets

end Command

end QuerySynth
