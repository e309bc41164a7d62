import QuerySynth.Proofs.Keyed
import QuerySynth.Proofs.Parameter.Flatten

/-! # Changes at some places of a document

A place is a list of keys and positions. Changes at some places are followed through objects and arrays: each
of the places is changed in its own way, and everything that is not inside of one of them keeps its outline.
-/

namespace QuerySynth

/-- A step into a document. -/
inductive Step where
  | member (key : String)
  | item (position : Nat)
deriving DecidableEq, Repr

namespace Document

/-- Where a step leads. -/
def step? : Document → Step → Option Document
  | .obj members, .member key => Keyed.get? members key
  | .arr items, .item position => items[position]?
  | _, _ => none

/-- What stands at a place. -/
def at? (document : Document) : List Step → Option Document
  | [] => some document
  | step :: rest => (document.step? step).bind (at? · rest)

/-- A document without what is inside of it: an object has its keys, an array its length, and everything else
stays as it is. -/
def outline : Document → Document
  | .arr items => .arr (items.map fun _ => .null)
  | .obj members => .obj (members.map fun (key, _) => (key, .null))
  | plain => plain

theorem at?_cons (document : Document) (step : Step) (rest : List Step) :
    document.at? (step :: rest) = (document.step? step).bind (·.at? rest) := rfl

variable {Γ : Type} {entries : List Step → Option Γ} {change : Γ → Document → Document → Prop}
  {before after document : Document}

/-- The places of entries are changed, each as its context says. Outside of them everything has its outline, and
nothing is new or gone. -/
structure Frame (entries : List Step → Option Γ) (change : Γ → Document → Document → Prop)
    (before after : Document) : Prop where
  inside : ∀ place context, entries place = some context →
    Option.Rel (change context) (before.at? place) (after.at? place)
  outside : ∀ place, (∀ ancestor, ancestor <+: place → entries ancestor = none) →
    (after.at? place).map outline = (before.at? place).map outline

/-- A document stays when no entries are in it. -/
theorem Frame.same (unreached : ∀ place context, entries place = some context → document.at? place = none) :
    Frame entries change document document where
  inside place context here := by
    rw [unreached place context here]
    exact .none
  outside _ _ := rfl

/-- An entry is changed as a whole. -/
theorem Frame.entry {context : Γ} (here : entries [] = some context)
    (below : ∀ step rest, entries (step :: rest) = none) (changes : change context before after) :
    Frame entries change before after where
  inside place other found := by
    cases place with
    | nil =>
      obtain rfl := Option.some.inj (here.symm.trans found)
      exact .some changes
    | cons step rest =>
      rw [below] at found
      cases found
  outside place away := by
    rw [away [] List.nil_prefix] at here
    cases here

/-- A document that is no entry is changed step by step. -/
theorem Frame.of_steps (root : entries [] = none) (sameOutline : after.outline = before.outline)
    (each : ∀ step, Option.Rel (Frame (fun place => entries (step :: place)) change) (before.step? step)
      (after.step? step)) : Frame entries change before after where
  inside place context here := by
    cases place with
    | nil =>
      rw [root] at here
      cases here
    | cons step rest =>
      rw [at?_cons, at?_cons]
      have child := each step
      generalize before.step? step = value, after.step? step = value' at child
      cases child with
      | none => exact .none
      | some frame => exact frame.inside rest context here
  outside place away := by
    cases place with
    | nil => exact congrArg some sameOutline
    | cons step rest =>
      have below (ancestor : List Step) (isPrefix : ancestor <+: rest) : entries (step :: ancestor) = none :=
        away (step :: ancestor) (List.cons_prefix_cons.mpr ⟨rfl, isPrefix⟩)
      rw [at?_cons, at?_cons]
      have child := each step
      generalize before.step? step = value, after.step? step = value' at child
      cases child with
      | none => rfl
      | some frame => exact frame.outside rest below

theorem Frame.map {f : String → Document → Document} {members : List (String × Document)}
    (root : entries [] = none)
    (each : ∀ key value, Keyed.get? members key = some value →
      Frame (fun place => entries (.member key :: place)) change value (f key value)) :
    Frame entries change (obj members) (obj (members.map fun (key, value) => (key, f key value))) := by
  refine .of_steps root (by simp [outline]) fun step => ?_
  cases step with
  | member key =>
    rw [step?, step?, Keyed.get?_map f]
    cases present : Keyed.get? members key with
    | none => exact .none
    | some value => exact .some (each key value present)
  | item position => exact .none

theorem Frame.mapItems {f : Document → Document} {items : List Document} (root : entries [] = none)
    (each : ∀ position item, Frame (fun place => entries (.item position :: place)) change item (f item)) :
    Frame entries change (arr items) (arr (items.map f)) := by
  refine .of_steps root (by simp [outline, Function.comp_def]) fun step => ?_
  cases step with
  | member key => exact .none
  | item position =>
    rw [step?, step?, List.getElem?_map]
    cases items[position]? with
    | none => exact .none
    | some item => exact .some (each position item)

theorem Frame.mapMember {key : String} {f : Document → Document} (root : entries [] = none)
    (others : ∀ step, step ≠ .member key → ∀ rest, entries (step :: rest) = none)
    (each : ∀ value, Frame (fun place => entries (.member key :: place)) change value (f value)) :
    Frame entries change document (document.mapMember key f) := by
  have unreached (noMember : document.step? (.member key) = none) (place : List Step) (context : Γ)
      (here : entries place = some context) : document.at? place = none := by
    cases place with
    | nil =>
      rw [root] at here
      cases here
    | cons step rest =>
      by_cases same : step = .member key
      · rw [at?_cons, same, noMember, Option.bind_none]
      · rw [others step same] at here
        cases here
  cases document with
  | obj members =>
    rw [mapMember_obj]
    refine .map (f := fun k v => if k = key then f v else v) root fun k value _ => ?_
    split
    · rename_i same
      exact same ▸ each value
    · rename_i different
      refine .same fun place context here => ?_
      rw [others _ (by simpa using different)] at here
      cases here
  | _ => exact .same (unreached rfl)

end Document

end QuerySynth
