/-! # Finite binary numbers of 64 bits

A value is a signed whole number below `2^53` times a power of two. Rounding is to the nearest
value, ties to the even one, and all arithmetic is exact arithmetic on natural numbers followed
by one rounding.
-/

namespace QuerySynth

/-- The value `± mantissa * 2 ^ exponent`; the exponent is the least possible one. -/
structure Binary64 where
  negative : Bool
  mantissa : Nat
  exponent : Int
deriving DecidableEq, Repr

namespace Binary64

def minExponent : Int := -1074

def maxExponent : Int := 971

def zero (negative : Bool) : Binary64 := ⟨negative, 0, minExponent⟩

/-- The nearest whole number to a quotient, a half going to the even neighbour. -/
def roundQuotient (num den : Nat) : Nat :=
  let quotient := num / den
  let rest := 2 * (num % den)
  if rest < den then quotient
  else if den < rest then quotient + 1
  else quotient + quotient % 2

/-- The quotient `num / den` divided by `2 ^ exponent`, as numerator and denominator. -/
def unscaled (num den : Nat) (exponent : Int) : Nat × Nat :=
  match exponent with
  | .ofNat e => (num, den * Nat.pow 2 e)
  | .negSucc e => (num * Nat.pow 2 (e + 1), den)

/-- The nearest value to `± num / den`; none when it is out of range. -/
def ofQuotient (negative : Bool) (num den : Nat) : Option Binary64 :=
  if num = 0 ∨ den = 0 then some (zero negative)
  else
    let guess : Int := num.log2 - den.log2 - 53
    let (top, bottom) := unscaled num den guess
    let exponent := max minExponent (if top / bottom < Nat.pow 2 53 then guess else guess + 1)
    let (top, bottom) := unscaled num den exponent
    let mantissa := roundQuotient top bottom
    let (mantissa, exponent) :=
      if mantissa = Nat.pow 2 53 then (Nat.pow 2 52, exponent + 1) else (mantissa, exponent)
    if maxExponent < exponent then none else some ⟨negative, mantissa, exponent⟩

/-- The magnitude as numerator and denominator. -/
def quotient (x : Binary64) : Nat × Nat :=
  match x.exponent with
  | .ofNat e => (x.mantissa * Nat.pow 2 e, 1)
  | .negSucc e => (x.mantissa, Nat.pow 2 (e + 1))

def isNonNegative (x : Binary64) : Bool :=
  !x.negative || x.mantissa == 0

/-- The rounded product of two magnitudes, with the sign of the first. -/
def times? (x y : Binary64) : Option Binary64 :=
  ofQuotient x.negative (x.quotient.1 * y.quotient.1) (x.quotient.2 * y.quotient.2)

/-- The rounded quotient of two magnitudes, with the sign of the first. -/
def over? (x y : Binary64) : Option Binary64 :=
  ofQuotient x.negative (x.quotient.1 * y.quotient.2) (x.quotient.2 * y.quotient.1)

def powerOfTen (exponent : Nat) : Option Binary64 :=
  ofQuotient false (Nat.pow 10 exponent) 1

/-- The greatest power of ten that one scaling step multiplies or divides by. -/
def scaleStep : Nat := 308

/-- Divide by the greatest step a number of times. -/
def stepsDown : Nat → Binary64 → Option Binary64
  | 0, x => some x
  | steps + 1, x => do stepsDown steps (← over? x (← powerOfTen scaleStep))

/-- Scale by a power of ten, rounding after each step. Two steps down turn every significand of
64 bits into zero, so no more than three are taken. -/
def scale? (x : Binary64) (exponent : Int) : Option Binary64 :=
  match exponent with
  | .ofNat e =>
    if e ≤ scaleStep then do times? x (← powerOfTen e)
    else if x.mantissa = 0 then some x
    else none
  | .negSucc e => do
    let y ← stepsDown (min (e / scaleStep) 3) x
    over? y (← powerOfTen (e % scaleStep + 1))

/-- The significand is rounded first and then scaled, as quick decimal readers do. -/
def ofScaled? (negative : Bool) (significand : Nat) (exponent : Int) : Option Binary64 := do
  let x ← ofQuotient negative significand 1
  scale? x exponent

/-- The value nearest to `± digits * 10 ^ exponent`; none when it is out of range. -/
def ofDecimal? (negative : Bool) (digits : Nat) (exponent : Int) : Option Binary64 :=
  let magnitude : Int := (Nat.toDigits 10 digits).length + exponent
  if digits = 0 ∨ magnitude < -400 then some (zero negative)
  else if 400 < magnitude then none
  else
    match exponent with
    | .ofNat e => ofQuotient negative (digits * Nat.pow 10 e) 1
    | .negSucc e => ofQuotient negative digits (Nat.pow 10 (e + 1))

end Binary64

end QuerySynth
