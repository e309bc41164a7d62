/-! # Digits

Values of digits in bases up to sixteen, and the characters that digits name.
-/

namespace QuerySynth.Text

def hexDigit? (c : Char) : Option Nat :=
  if c.isDigit then some (c.toNat - '0'.toNat)
  else if 'a' ≤ c ∧ c ≤ 'f' then some (c.toNat - 'a'.toNat + 10)
  else if 'A' ≤ c ∧ c ≤ 'F' then some (c.toNat - 'A'.toNat + 10)
  else none

def digitValue? (base : Nat) (c : Char) : Option Nat :=
  (hexDigit? c).filter (· < base)

/-- The number of digits in a base; there has to be one. -/
def digits? (base : Nat) (text : List Char) : Option Nat :=
  if text.isEmpty then none
  else (text.mapM (digitValue? base)).map (·.foldl (fun n d => base * n + d) 0)

/-- The character of a number; surrogates and numbers beyond the last character have none. -/
def charOfNat? (n : Nat) : Option Char :=
  if h : n.isValidChar then some (Char.ofNatAux n h) else none

/-- The character of hexadecimal digits. -/
def hexChar? (digits : List Char) : Option Char :=
  (digits? 16 digits).bind charOfNat?

end QuerySynth.Text
