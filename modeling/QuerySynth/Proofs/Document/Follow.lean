import QuerySynth.Document.Pointer
import QuerySynth.Proofs.Text.Pieces

/-! # Following steps into a document

A pointer names the steps that lead to a value. A place is given by the steps to an object, and a
reference stands there when the object has a text under `$ref`.
-/

namespace QuerySynth.Document

open Text

/-- The value that some steps lead to, one after the other. -/
def follow? (document : Document) (steps : List String) : Option Document :=
  steps.foldlM child? document

@[simp] theorem follow?_nil (document : Document) : document.follow? [] = some document := rfl

@[simp] theorem follow?_cons (document : Document) (step : String) (steps : List String) :
    document.follow? (step :: steps) = (document.child? step).bind (·.follow? steps) := rfl

/-- The reference that stands at a place. -/
def referenceAt? (document : Document) (place : List String) : Option String :=
  (document.follow? place).bind (·.textAt? "$ref")

theorem referenceAt?_nil (document : Document) : document.referenceAt? [] = document.textAt? "$ref" := rfl

theorem referenceAt?_cons (document : Document) (step : String) (place : List String) :
    document.referenceAt? (step :: place) = (document.child? step).bind (·.referenceAt? place) := by
  rw [referenceAt?, follow?_cons, Option.bind_assoc]
  rfl

/-- No reference stands in a text. -/
@[simp] theorem referenceAt?_str (text : String) (place : List String) :
    (str text).referenceAt? place = none := by
  cases place <;> rfl

@[simp] theorem referenceAt?_bool (value : Bool) (place : List String) :
    (bool value).referenceAt? place = none := by
  cases place <;> rfl

@[simp] theorem referenceAt?_null (place : List String) : null.referenceAt? place = none := by
  cases place <;> rfl

/-- The steps of a written pointer without its first slash. -/
def stepsOf (pointer : String) : List String :=
  (splitOn '/' pointer.toList).map stepText

theorem stepsOf_ne_nil (pointer : String) : stepsOf pointer ≠ [] := by
  simp [stepsOf, splitOn_ne_nil]

theorem pointer?_slash (document : Document) (pointer : List Char) :
    document.pointer? (String.ofList ('/' :: pointer)) = document.follow? (stepsOf (String.ofList pointer)) := by
  rw [follow?, stepsOf, List.foldlM_map, String.toList_ofList]
  simp only [pointer?, String.toList_ofList]

/-- A local reference names the steps after its mark and first slash. -/
theorem resolve?_eq_follow? (document : Document) {reference : String} {pointer : List Char}
    (written : reference.toList = '#' :: '/' :: pointer) :
    document.resolve? reference = document.follow? (stepsOf (String.ofList pointer)) := by
  rw [resolve?, written]
  exact pointer?_slash document pointer

theorem unescapePair_of_notMem (mark by' : Char) {piece : List Char} (plain : '~' ∉ piece) :
    unescapePair mark by' piece = piece := by
  induction piece with
  | nil => rfl
  | cons c rest ih =>
    have other : c ≠ '~' := fun same => plain (same ▸ List.mem_cons_self)
    have later : '~' ∉ rest := fun member => plain (List.mem_cons_of_mem _ member)
    rw [unescapePair.eq_2 _ _ _ _ fun _ _ same _ => other same, ih later]

/-- A pointer without slashes and tildes is one step. -/
theorem stepsOf_of_notMem {pointer : String} (noSlash : '/' ∉ pointer.toList) (noTilde : '~' ∉ pointer.toList) :
    stepsOf pointer = [pointer] := by
  rw [stepsOf, splitOn_of_notMem noSlash, List.map_singleton, stepText, unescapePair_of_notMem _ _ noTilde,
    unescapePair_of_notMem _ _ noTilde, String.ofList_toList]

end QuerySynth.Document
