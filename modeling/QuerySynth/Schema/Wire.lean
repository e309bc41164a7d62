import QuerySynth.Text.Utf8

/-! # The wire format

A compiled schema is a record of numbered fields. Every field starts with a key that gives its
number and the form of its value; records may be nested in values. A record is read into the
list of its fields, and fields that a reader does not know are passed over.
-/

namespace QuerySynth.Wire

/-- The value of a field. -/
inductive Value where
  | varint (value : Nat)
  | bytes (content : List UInt8)
  /-- Eight bytes, four bytes, or a bracketed group; no field that is read has such a value. -/
  | other
deriving DecidableEq, Repr

/-- The fields of a record, in the order in which they stand. -/
abbrev Record := List (Nat × Value)

/-- A number in groups of seven bits, the lowest group first, from the group at `place` on. It
has at most 64 bits. -/
def varintFrom? (place : Nat) : List UInt8 → Option (Nat × List UInt8)
  | [] => none
  | byte :: rest =>
    if place = 9 ∧ 2 ≤ byte.toNat then none
    else if byte.toNat < 128 then some (byte.toNat * Nat.pow 128 place, rest)
    else (varintFrom? (place + 1) rest).map fun (value, rest) =>
      (byte.toNat % 128 * Nat.pow 128 place + value, rest)

/-- A number and what follows it. -/
def varint? (bytes : List UInt8) : Option (Nat × List UInt8) :=
  varintFrom? 0 bytes

def split? (count : Nat) (bytes : List UInt8) : Option (List UInt8 × List UInt8) :=
  if count ≤ bytes.length then some (bytes.take count, bytes.drop count) else none

/-- The number of a field and the form of its value. -/
def key? (bytes : List UInt8) : Option (Nat × Nat × List UInt8) := do
  let (key, rest) ← varint? bytes
  if key < Nat.pow 2 32 ∧ 8 ≤ key then some (key / 8, key % 8, rest) else none

mutual

/-- A value of the given form and what follows it. `fuel` bounds the steps. -/
def value? (fuel : Nat) (number form : Nat) (bytes : List UInt8) :
    Option (Value × List UInt8) :=
  match fuel with
  | 0 => none
  | fuel + 1 =>
    match form with
    | 0 => (varint? bytes).map fun (value, rest) => (.varint value, rest)
    | 1 => (split? 8 bytes).map fun (_, rest) => (.other, rest)
    | 2 => do
      let (count, rest) ← varint? bytes
      let (content, rest) ← split? count rest
      return (.bytes content, rest)
    | 3 => (afterGroup? fuel number bytes).map fun rest => (.other, rest)
    | 5 => (split? 4 bytes).map fun (_, rest) => (.other, rest)
    | _ => none

/-- What follows the group of a number. -/
def afterGroup? (fuel : Nat) (number : Nat) (bytes : List UInt8) : Option (List UInt8) :=
  match fuel with
  | 0 => none
  | fuel + 1 =>
    match key? bytes with
    | none => none
    | some (inner, 4, rest) => if inner = number then some rest else none
    | some (inner, form, rest) =>
      match value? fuel inner form rest with
      | none => none
      | some (_, rest) => afterGroup? fuel number rest

end

/-- The fields of a record, each of which takes at least two bytes of at most `fuel`. -/
def fields? : (fuel : Nat) → List UInt8 → Option Record
  | _, [] => some []
  | 0, _ :: _ => none
  | fuel + 1, bytes => do
    let (number, form, rest) ← key? bytes
    let (value, rest) ← value? (fuel + 1) number form rest
    return (number, value) :: (← fields? fuel rest)

/-- The record that bytes encode. -/
def record? (bytes : List UInt8) : Option Record :=
  fields? bytes.length bytes

/-- The numbers that bytes encode one after the other. -/
def packed? : (fuel : Nat) → List UInt8 → Option (List Nat)
  | _, [] => some []
  | 0, _ :: _ => none
  | fuel + 1, bytes => do
    let (value, rest) ← varint? bytes
    return value :: (← packed? fuel rest)

/-- The low 32 bits of a number, with a sign. -/
def signed32 (value : Nat) : Int :=
  Int.bmod value (Nat.pow 2 32)

namespace Record

def values (record : Record) (number : Nat) : List Value :=
  (record.filter (·.1 = number)).map (·.2)

def contents? (record : Record) (number : Nat) : Option (List (List UInt8)) :=
  (record.values number).mapM fun
    | .bytes content => some content
    | _ => none

def texts? (record : Record) (number : Nat) : Option (List String) :=
  (record.contents? number).bind (·.mapM textOfBytes?)

def lastText? (record : Record) (number : Nat) : Option (Option String) :=
  (record.texts? number).map (·.getLast?)

def lastNumber? (record : Record) (number : Nat) : Option (Option Int) :=
  ((record.values number).mapM fun
    | Value.varint value => some (signed32 value)
    | _ => none).map List.getLast?

/-- The numbers of a field, given one by one or packed. -/
def numbers? (record : Record) (number : Nat) : Option (List Int) :=
  ((record.values number).mapM fun
    | Value.varint value => some [signed32 value]
    | Value.bytes content => (packed? content.length content).map (List.map signed32)
    | Value.other => none).map List.flatten

/-- The record of a field, all its occurrences together. -/
def merged? (record : Record) (number : Nat) : Option Record := do
  return (← (← record.contents? number).mapM record?).flatten

/-- Whether the fields of the given numbers, which no reader needs, have values of their forms:
records, texts, and single numbers. -/
def admits (record : Record) (records texts numbers : List Nat) : Bool :=
  records.all (fun n => (record.merged? n).isSome) &&
    texts.all (fun n => (record.texts? n).isSome) &&
    numbers.all fun n => (record.lastNumber? n).isSome

end Record

end QuerySynth.Wire
