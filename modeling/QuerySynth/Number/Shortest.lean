import QuerySynth.Number.Binary64

/-! # Shortest decimal digits

The fewest significant digits that read back as a given value, and of those the nearest. Only
the two neighbours of the value on a decimal grid need a test: when a point of a grid lies in
the interval of numbers that round to the value, so does one of its two neighbours.
-/

namespace QuerySynth.Binary64

/-- The numbers that round to a magnitude, in units of `2 ^ (exponent - 2)`. -/
structure Interval where
  low : Nat
  value : Nat
  high : Nat
  /-- Whether the two ends belong to it. -/
  closed : Bool
deriving DecidableEq, Repr

/-- Half way to both neighbours; below a power of two the lower neighbour is twice as near. -/
def interval (x : Binary64) : Interval :=
  let near := x.mantissa = Nat.pow 2 52 ∧ minExponent < x.exponent
  ⟨4 * x.mantissa - (if near then 1 else 2), 4 * x.mantissa, 4 * x.mantissa + 2,
    x.mantissa % 2 = 0⟩

/-- Decimal digits of a magnitude: `digits * 10 ^ exponent`. -/
structure Decimal where
  digits : Nat
  exponent : Int
deriving DecidableEq, Repr

/-- The better of the two neighbours of a magnitude on the grid of multiples of `10 ^ exponent`,
when one of them rounds to it. -/
def onGrid? (x : Binary64) (exponent : Int) : Option Nat :=
  let range := x.interval
  let (unitTop, unitBottom) : Nat × Nat :=
    match x.exponent - 2 with
    | .ofNat e => (Nat.pow 2 e, 1)
    | .negSucc e => (1, Nat.pow 2 (e + 1))
  let (top, bottom) : Nat × Nat :=
    match exponent with
    | .ofNat e => (unitTop, unitBottom * Nat.pow 10 e)
    | .negSucc e => (unitTop * Nat.pow 10 (e + 1), unitBottom)
  let inside (digits : Nat) : Bool :=
    let point := digits * bottom
    if range.closed then range.low * top ≤ point && point ≤ range.high * top
    else range.low * top < point && point < range.high * top
  let below := range.value * top / bottom
  let nearest := roundQuotient (range.value * top) bottom
  let other := if nearest = below then below + 1 else below
  if inside nearest then some nearest else if inside other then some other else none

/-- The exponent of the first decimal digit of a positive magnitude. -/
def leadingExponent (x : Binary64) : Int :=
  let (top, bottom) := x.quotient
  if bottom ≤ top then ((Nat.toDigits 10 (top / bottom)).length : Int) - 1
  else
    let digits := (Nat.toDigits 10 (bottom / top)).length
    if Nat.pow 10 (digits - 1) * top = bottom then -((digits : Int) - 1) else -(digits : Int)

/-- The first grid that meets the interval, from one digit to seventeen. -/
def shortest (x : Binary64) : Decimal :=
  let lead := x.leadingExponent
  let candidates := (List.range 17).filterMap fun (places : Nat) =>
    (x.onGrid? (lead - places)).map fun digits => Decimal.mk digits (lead - places)
  candidates.head?.getD ⟨0, 0⟩

end QuerySynth.Binary64
