/-! # Sets of code points

A set is a list of stretches: first and last code point and the distance of neighbours. The
stretches of alternating scripts (upper, lower, upper, …) have distance two.
-/

namespace QuerySynth.Text

/-- Stretches `(first, last, step)` of code points. -/
abbrev CodeSet := List (Nat × Nat × Nat)

/-- A code point belongs to a set when one of its stretches meets it. -/
def CodeSet.holds (set : CodeSet) (code : Nat) : Bool :=
  set.any fun (first, last, step) =>
    first ≤ code && code ≤ last && (code - first) % step == 0

end QuerySynth.Text
