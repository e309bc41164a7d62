import QuerySynth.Number.Shortest

/-! # Decimal text of a binary number

Digits are chosen by `Binary64.shortest`; a layout record says how a format writes them.
-/

namespace QuerySynth

/-- How a format writes decimal numbers. -/
structure NumberLayout where
  /-- The least leading exponent that is written in positional notation. -/
  lowest : Int
  /-- The greatest leading exponent that is written in positional notation. -/
  highest : Int
  /-- What stands before a positive exponent. -/
  plus : String
deriving DecidableEq, Repr

namespace NumberLayout

def zeros (count : Nat) : String :=
  String.ofList (List.replicate count '0')

/-- Digits without trailing zeros, and the number of zeros dropped. -/
def strip (digits : List Char) : List Char × Nat :=
  let kept := (digits.reverse.dropWhile (· == '0')).reverse
  (kept, digits.length - kept.length)

/-- Positional notation with at least one digit on each side of the point. -/
def positional (digits : List Char) (exponent : Int) : String :=
  match exponent with
  | .ofNat e => String.ofList digits ++ zeros e ++ ".0"
  | .negSucc e =>
    let places := e + 1
    if places < digits.length then
      String.ofList (digits.take (digits.length - places)) ++ "." ++
        String.ofList (digits.drop (digits.length - places))
    else "0." ++ zeros (places - digits.length) ++ String.ofList digits

/-- One digit before the point, and the exponent of that digit. -/
def scientific (layout : NumberLayout) (digits : List Char) (lead : Int) : String :=
  let fraction := digits.drop 1
  String.ofList (digits.take 1) ++
    (if fraction.isEmpty then "" else "." ++ String.ofList fraction) ++ "e" ++
    (if lead < 0 then "-" else layout.plus) ++ toString lead.natAbs

/-- The text of a value in a layout. -/
def render (layout : NumberLayout) (x : Binary64) : String :=
  let sign := if x.negative then "-" else ""
  if x.mantissa = 0 then sign ++ "0.0"
  else
    let decimal := x.shortest
    let (digits, dropped) := strip (Nat.toDigits 10 decimal.digits)
    let exponent := decimal.exponent + dropped
    let lead := exponent + digits.length - 1
    sign ++
      (if layout.lowest ≤ lead ∧ lead ≤ layout.highest then positional digits exponent
        else layout.scientific digits lead)

end NumberLayout

end QuerySynth
