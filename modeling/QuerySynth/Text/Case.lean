import QuerySynth.Text.CaseTable

/-! # Letter case of any script

Classes and full case mappings of single characters. ASCII is decided by arithmetic, so only
other characters reach the tables.
-/

namespace QuerySynth.Text

/-- Letters, letter-like marks and letter numbers. -/
def isAlphabetic (c : Char) : Bool :=
  if c.toNat < 128 then c.isAlpha else alphabeticSet.holds c.toNat

/-- Alphabetic characters and characters of a number category. -/
def isAlphanumeric (c : Char) : Bool :=
  if c.toNat < 128 then c.isAlphanum
  else alphabeticSet.holds c.toNat || numericSet.holds c.toNat

def isLowerCase (c : Char) : Bool :=
  if c.toNat < 128 then c.isLower else lowercaseSet.holds c.toNat

def isUpperCase (c : Char) : Bool :=
  if c.toNat < 128 then c.isUpper else uppercaseSet.holds c.toNat

/-- The mapped form of a code point: an expansion, else a shift, else itself. -/
def mapCase (expansions : List (Nat × List Nat)) (shifts : List (Nat × Nat × Nat × Int))
    (c : Char) : List Char :=
  match expansions.lookup c.toNat with
  | some codes => codes.map Char.ofNat
  | none =>
    let covers : Nat × Nat × Nat × Int → Bool := fun (first, last, step, _) =>
      CodeSet.holds [(first, last, step)] c.toNat
    match shifts.find? covers with
    | some (_, _, _, distance) => [Char.ofNat (c.toNat + distance).toNat]
    | none => [c]

/-- The full lower-case form of one character, without regard to its neighbours. -/
def lowerCase (c : Char) : List Char :=
  if c.toNat < 128 then [c.toLower] else mapCase lowerExpansions lowerShifts c

def upperCase (c : Char) : List Char :=
  if c.toNat < 128 then [c.toUpper] else mapCase upperExpansions upperShifts c

end QuerySynth.Text
