import QuerySynth.Proofs.Except
import QuerySynth.Proofs.Name.Canonical
import QuerySynth.Proofs.Parameter.Normal
import QuerySynth.Proofs.Rest.Normalize

/-! # Path parameters and their placeholders

A path parameter fills the placeholder of its name in the path. A normal form gives the parameter its
delimited name and leaves the path. So the parameter keeps a placeholder where its name is delimited
already, and in a path with one placeholder only there.
-/

namespace QuerySynth.Rest

/-- A path has the placeholder of a name. -/
def HasPlaceholder (path name : String) : Prop :=
  '\x7b' :: (name.toList ++ ['\x7d']) <:+: path.toList

instance (path name : String) : Decidable (HasPlaceholder path name) :=
  inferInstanceAs (Decidable (_ <:+: _))

/-- The characters around a placeholder. -/
def isBrace (c : Char) : Bool :=
  c == '\x7b' || c == '\x7d'

/-- A path has the placeholder of a name, and no other braces. -/
structure OnlyPlaceholder (path name : String) : Prop where
  split : ∃ front back, path.toList = front ++ '\x7b' :: (name.toList ++ '\x7d' :: back) ∧
    ∀ c ∈ front ++ name.toList ++ back, isBrace c = false

/-- Before its first closing mark a text is determined. -/
theorem eq_of_append_cons {mark : Char} {first second rest rest' : List Char} (free : mark ∉ second)
    (free' : mark ∉ rest') (same : first ++ mark :: rest = second ++ mark :: rest') : first = second := by
  induction first generalizing second with
  | nil =>
    cases second with
    | nil => rfl
    | cons c others =>
      obtain ⟨rfl, -⟩ := List.cons.inj same
      exact absurd List.mem_cons_self free
  | cons c others ih =>
    cases second with
    | nil =>
      obtain ⟨rfl, same⟩ := List.cons.inj same
      exact absurd (same ▸ List.mem_append_right _ List.mem_cons_self) free'
    | cons d later =>
      obtain ⟨rfl, tail⟩ := List.cons.inj same
      rw [ih (fun member => free (List.mem_cons_of_mem _ member)) tail]

/-- A path with one placeholder has that of no other name. -/
theorem OnlyPlaceholder.hasPlaceholder_iff {path name other : String} (only : OnlyPlaceholder path name) :
    HasPlaceholder path other ↔ other = name := by
  obtain ⟨front, back, split, plain⟩ := only.split
  have free {mark : Char} (brace : isBrace mark = true) {part : List Char}
      (inside : part ⊆ front ++ name.toList ++ back) : mark ∉ part := by
    intro member
    rw [plain mark (inside member)] at brace
    cases brace
  constructor
  · rintro ⟨before, after, found⟩
    rw [split] at found
    -- Both sides open at the only opening brace, and close at the only closing one after it.
    have opens : before ++ '\x7b' :: (other.toList ++ '\x7d' :: after) =
        front ++ '\x7b' :: (name.toList ++ '\x7d' :: back) := by
      simpa using found
    have rest : '\x7b' ∉ name.toList ++ '\x7d' :: back := by
      intro member
      rcases List.mem_append.mp member with inName | later
      · exact free rfl (by simp) inName
      · rcases List.mem_cons.mp later with same | inBack
        · cases same
        · exact free rfl (by simp) inBack
    have fronts : before = front := eq_of_append_cons (free rfl (by simp)) rest opens
    rw [fronts, List.append_cancel_left_eq, List.cons.injEq] at opens
    have names := eq_of_append_cons (free rfl (by simp)) (free rfl (by simp)) opens.2
    exact String.toList_injective names
  · rintro rfl
    exact ⟨front, back, by simp [split]⟩

/-- An ASCII name is its own delimited form exactly when it is canonical and has no dot. -/
theorem normalize_eq_self_iff {name : String} (ascii : ∀ c ∈ name.toList, Text.IsAscii c) :
    Name.normalize name = name ↔ Name.Canonical name.toList ∧ '.' ∉ name.toList := by
  constructor
  · intro same
    obtain ⟨canonical, noDot⟩ := Name.canonical_normalized ascii
    have text : Name.normalized name.toList = name.toList := by
      rw [← String.toList_ofList (l := Name.normalized name.toList)]
      exact congrArg String.toList same
    rw [text] at canonical noDot
    exact ⟨canonical, noDot⟩
  · rintro ⟨canonical, noDot⟩
    rw [Name.normalize, Name.normalized_of_canonical canonical noDot, String.ofList_toList]

section Documents

variable {document : Document} {path method : String} {position : Nat} {entry : Document}
  {raw : RawParameter}

/-- A normal form has a path parameter at its place under the same path, with its delimited name. Where
that is another name, the parameter has lost the placeholder of a path with one placeholder. -/
theorem hasPlaceholder_normalizeDocument (schema : Schema) (registry : Registry) (basePath : Option String)
    (known : method ∈ iteratedMethods) (listed : (parameterEntries document path method)[position]? = some entry)
    (inline : inlineParameter? entry = some raw) (located : raw.location = .path)
    (fits : HasPlaceholder path raw.name) :
    let after := (normalizeDocument document schema registry basePath).1
    Keyed.keys (pathItems after) = Keyed.keys (pathItems document) ∧
    ∃ entry' raw', (parameterEntries after path method)[position]? = some entry' ∧
      inlineParameter? entry' = some raw' ∧ raw'.location = .path ∧ raw'.name = Name.normalize raw.name ∧
      (raw'.name = raw.name → HasPlaceholder path raw'.name) ∧
      (OnlyPlaceholder path raw.name → (HasPlaceholder path raw'.name ↔ raw'.name = raw.name)) ∧
      ((∀ c ∈ raw.name.toList, Text.IsAscii c) →
        (raw'.name = raw.name ↔ Name.Canonical raw.name.toList ∧ '.' ∉ raw.name.toList)) := by
  intro after
  have keys : Keyed.keys (pathItems after) = Keyed.keys (pathItems document) := by
    rw [pathItems_normalizeDocument, Keyed.keys, List.map_map]
    rfl
  have rewritten := parameterEntries_normalizeDocument document schema registry basePath path known
  obtain ⟨entry', listed', ctx, -, rfl⟩ := exists_of_getElem? rewritten listed
  have inline' := inlineParameter?_normalEntry (renamesOf document schema registry basePath) ctx inline
  refine ⟨keys, _, _, listed', inline', located, rfl, fun same => ?_, fun only => only.hasPlaceholder_iff,
    normalize_eq_self_iff⟩
  rwa [same]

end Documents

def keyParameter (name : String) : Document :=
  .obj [("in", .str "path"), ("name", .str name), ("required", .bool true)]

/-- A document with one path, whose placeholder a parameter of the path item fills. -/
def blockDocument (path name : String) : Document :=
  .obj [("paths", .obj [(path, .obj [("parameters", .arr [keyParameter name])])])]

/-- A delimited name keeps its placeholder. -/
theorem hasPlaceholder_slot :
    HasPlaceholder "/blocks/\x7bslot_id\x7d" "slot_id" ∧
    ∃ entry' raw',
      (parameterEntries (normalizeDocument (blockDocument "/blocks/\x7bslot_id\x7d" "slot_id") .empty .standard
        none).1 "/blocks/\x7bslot_id\x7d" "get")[0]? = some entry' ∧
      inlineParameter? entry' = some raw' ∧ raw'.location = .path ∧
      HasPlaceholder "/blocks/\x7bslot_id\x7d" raw'.name := by
  have fits : HasPlaceholder "/blocks/\x7bslot_id\x7d" "slot_id" := by decide +kernel
  have inline : inlineParameter? (keyParameter "slot_id") =
      some { name := "slot_id", location := .path, required := true } := rfl
  have listed : (parameterEntries (blockDocument "/blocks/\x7bslot_id\x7d" "slot_id")
      "/blocks/\x7bslot_id\x7d" "get")[0]? = some (keyParameter "slot_id") := rfl
  have delimited : Name.normalize "slot_id" = "slot_id" := by decide +kernel
  obtain ⟨-, entry', raw', listed', inline', located, name, keeps, -⟩ :=
    hasPlaceholder_normalizeDocument .empty .standard none (by decide) listed inline rfl fits
  exact ⟨fits, entry', raw', listed', inline', located, keeps (name.trans delimited)⟩

/-- A name in capitals and small letters loses it, because the path keeps the placeholder of that name. -/
theorem not_hasPlaceholder_slotId :
    HasPlaceholder "/blocks/\x7bslotId\x7d" "slotId" ∧
    ∃ entry raw entry' raw',
      parameterEntries (blockDocument "/blocks/\x7bslotId\x7d" "slotId") "/blocks/\x7bslotId\x7d" "get" =
        [entry] ∧ inlineParameter? entry = some raw ∧ raw.location = .path ∧ raw.name = "slotId" ∧
      parameterEntries (normalizeDocument (blockDocument "/blocks/\x7bslotId\x7d" "slotId") .empty .standard
        none).1 "/blocks/\x7bslotId\x7d" "get" = [entry'] ∧ inlineParameter? entry' = some raw' ∧
      ¬HasPlaceholder "/blocks/\x7bslotId\x7d" raw'.name := by
  refine ⟨by decide +kernel, keyParameter "slotId", { name := "slotId", location := .path, required := true },
    keyParameter "slot_id", { name := "slot_id", location := .path, required := true }, rfl, rfl, rfl, rfl,
    rfl, rfl, by decide +kernel⟩

end QuerySynth.Rest
