import QuerySynth.Filter.Family
import QuerySynth.Keyed

/-! # The filter registry

The families that a run knows, by message name, and the operators that at least one of them
supports.
-/

namespace QuerySynth

/-- The known filter families, keyed by message name. -/
structure Registry where
  families : Keyed Family
deriving DecidableEq, Repr

namespace Registry

def ofFamilies (families : List Family) : Registry :=
  ⟨Keyed.ofList (families.map fun family => (family.name, family))⟩

/-- Every scalar kind plain and nullable, and the maps from text to text. -/
def standard : Registry :=
  ofFamilies
    ((ScalarKind.all.flatMap fun kind => [⟨kind, false, false⟩, ⟨kind, true, false⟩]) ++
      [⟨.string, false, true⟩])

def get? (registry : Registry) (name : String) : Option Family :=
  registry.families.get? name

/-- Whether a message name is a known filter. -/
def contains (registry : Registry) (name : String) : Bool :=
  (registry.get? name).isSome

/-- The operators that some family supports, in the standard order. -/
def vocabulary (registry : Registry) : List Operator :=
  Operator.all.filter fun op => registry.families.values.any (·.supports op)

/-- The operator of the vocabulary that a suffix names. -/
def operator? (registry : Registry) (text : String) : Option Operator :=
  (Operator.ofToken? text).filter registry.vocabulary.contains

end Registry

end QuerySynth
