import QuerySynth.Proofs.Document.Follow
import QuerySynth.Proofs.Document.Frame

/-! # References at places

A change of one member leaves the references outside of it. The places of changes tell keys from positions,
those of pointers do not: a reference that stands at the former stands at the latter, where a position is
written as its number.
-/

namespace QuerySynth

namespace Document

private theorem foldl_toDigits (position : Nat) :
    (Nat.toDigits 10 position).foldl (fun n d => 10 * n + (d.toNat - '0'.toNat)) 0 = position := by
  induction position using Nat.strongRecOn with
  | _ position ih =>
    rw [Nat.toDigits_eq_if (by decide)]
    split
    · rename_i small
      simpa using Nat.toNat_digitChar_sub_48_of_lt_ten small
    · have below : position / 10 < position := by omega
      have last := Nat.toNat_digitChar_sub_48_of_lt_ten (Nat.mod_lt position (show 0 < 10 by decide))
      rw [List.foldl_append, ih _ below, List.foldl_cons, List.foldl_nil]
      change 10 * (position / 10) + ((position % 10).digitChar.toNat - 48) = position
      omega

/-- A positive number has no needless zero in front. -/
private theorem head?_toDigits {position : Nat} (positive : 0 < position) :
    (Nat.toDigits 10 position).head? ≠ some '0' := by
  induction position using Nat.strongRecOn with
  | _ position ih =>
    rw [Nat.toDigits_eq_if (by decide)]
    split
    · simp only [List.head?_cons, ne_eq, Option.some.injEq, Nat.digitChar_eq_zero]
      omega
    · rw [List.head?_append_of_ne_nil _ Nat.toDigits_ne_nil]
      exact ih _ (by omega) (by omega)

/-- The number of a position names it. -/
theorem position?_toString (position : Nat) : position? (toString position) = some position := by
  have digits : (toString position).toList = Nat.toDigits 10 position := by
    change (String.ofList (Nat.toDigits 10 position)).toList = _
    rw [String.toList_ofList]
  have all : (Nat.toDigits 10 position).all Char.isDigit = true :=
    List.all_eq_true.mpr fun digit member => Nat.isDigit_of_mem_toDigits (by decide) (by decide) member
  rw [position?, digits]
  rw [if_neg, foldl_toDigits]
  rcases Nat.eq_zero_or_pos position with rfl | positive
  · decide
  · simp [all, Nat.toDigits_ne_nil, head?_toDigits positive]

theorem at?_append (document : Document) (place rest : List Step) :
    document.at? (place ++ rest) = (document.at? place).bind (·.at? rest) := by
  induction place generalizing document with
  | nil => rfl
  | cons step others ih =>
    rw [List.cons_append, at?_cons, at?_cons, Option.bind_assoc]
    exact congrArg _ (funext ih)

/-- The reference that stands under `$ref` at a place. -/
def reference? (document : Document) (place : List Step) : Option String :=
  (document.at? (place ++ [.member "$ref"])).bind text?

theorem text?_eq_some_iff {document : Document} {text : String} :
    document.text? = some text ↔ document = .str text := by
  cases document <;> simp [text?]

theorem outline_eq_str_iff {value : Document} {text : String} : value.outline = .str text ↔ value = .str text := by
  cases value <;> simp [outline]

theorem reference?_eq_some_iff {document : Document} {place : List Step} {reference : String} :
    document.reference? place = some reference ↔
      document.at? (place ++ [.member "$ref"]) = some (.str reference) := by
  rw [reference?, Option.bind_eq_some_iff]
  simp only [text?_eq_some_iff, exists_eq_right]

theorem step?_member (document : Document) (key : String) : document.step? (.member key) = document.get? key := by
  cases document <;> rfl

theorem reference?_nil (document : Document) : document.reference? [] = document.textAt? "$ref" := by
  rw [reference?, List.nil_append, at?_cons, step?_member, textAt?]
  cases document.get? "$ref" <;> rfl

theorem reference?_append (document : Document) (place rest : List Step) :
    document.reference? (place ++ rest) = (document.at? place).bind (·.reference? rest) := by
  rw [reference?, List.append_assoc, at?_append, Option.bind_assoc]
  rfl

theorem reference?_cons (document : Document) (step : Step) (place : List Step) :
    document.reference? (step :: place) = (document.step? step).bind (·.reference? place) := by
  rw [reference?, List.cons_append, at?_cons, Option.bind_assoc]
  rfl

/-- No reference stands in null. -/
@[simp] theorem reference?_null (place : List Step) : null.reference? place = none := by
  cases place with
  | nil => rfl
  | cons step rest => cases step <;> rfl

theorem step?_mapMember (key : String) (f : Document → Document) (document : Document) (step : Step) :
    (document.mapMember key f).step? step =
      if step = .member key then (document.step? step).map f else document.step? step := by
  cases document with
  | obj members =>
    rw [mapMember_obj]
    cases step with
    | member other =>
      rw [step?, step?, Keyed.get?_map fun k v => if k = key then f v else v]
      by_cases same : other = key
      · simp [same]
      · simp [same]
    | item position => rfl
  | _ => cases step <;> simp [mapMember, step?]

/-- A change of one member leaves the references outside of it. -/
theorem reference?_mapMember {document : Document} {place : List Step} {key : String} {f : Document → Document}
    (plain : key ≠ "$ref")
    (same : ∀ rest, place = .member key :: rest → ∀ value, (f value).reference? rest = value.reference? rest) :
    (document.mapMember key f).reference? place = document.reference? place := by
  cases place with
  | nil => rw [reference?_nil, reference?_nil, textAt?_mapMember plain.symm]
  | cons step rest =>
    rw [reference?_cons, reference?_cons, step?_mapMember]
    split
    · rename_i atKey
      rw [Option.bind_map]
      exact congrArg _ (funext fun value => same rest (by rw [atKey]) value)
    · rfl

/-- How a pointer writes a step. -/
def stepWord : Step → String
  | .member key => key
  | .item position => toString position

theorem child?_stepWord {document value : Document} {step : Step} (leads : document.step? step = some value) :
    document.child? (stepWord step) = some value := by
  cases document with
  | obj members =>
    cases step with
    | member key => exact leads
    | item position => cases leads
  | arr items =>
    cases step with
    | member key => cases leads
    | item position =>
      rw [stepWord, child?, position?_toString]
      exact leads
  | _ => cases step <;> cases leads

/-- A reference at a place is one at the steps of a pointer. -/
theorem referenceAt?_of_reference? {document : Document} {place : List Step} {reference : String}
    (stands : document.reference? place = some reference) :
    document.referenceAt? (place.map stepWord) = some reference := by
  induction place generalizing document with
  | nil => rwa [reference?_nil] at stands
  | cons step rest ih =>
    rw [reference?_cons] at stands
    obtain ⟨value, leads, inside⟩ := Option.bind_eq_some_iff.mp stands
    rw [List.map_cons, referenceAt?_cons, child?_stepWord leads, Option.bind_some, ih inside]

end Document

end QuerySynth
