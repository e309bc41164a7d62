import QuerySynth.Parameter.Object
import QuerySynth.Proofs.Except
import QuerySynth.Proofs.Rest.References

/-! # Parameter objects are read as they were written

A written object has the members that its parameter sets and those without a meaning. Reading it
gives the parameter back, also when the references inside followed renamed schemas meanwhile.
-/

namespace QuerySynth

namespace RawParameter

open Rest

/-- The members of a written object that have a meaning. -/
private def writtenMembers (raw : RawParameter) : List (String × Document) :=
  [("name", .str raw.name), ("in", .str raw.location.word)] ++
    (raw.description.toList.map fun text => ("description", .str text)) ++
    (if raw.required then [("required", .bool true)] else []) ++
    (if raw.schema.isNull then [] else [("schema", raw.schema)]) ++
    (raw.requiredGroup.toList.map fun group => ("x-required-group", .str group))

private theorem nodup_writtenMembers (raw : RawParameter) : (Keyed.keys raw.writtenMembers).Nodup := by
  rw [writtenMembers]
  cases raw.description <;> cases raw.required <;> cases raw.schema.isNull <;>
    cases raw.requiredGroup <;> simp [Keyed.keys]

private theorem get?_toDocument (raw : RawParameter) (key : String) :
    raw.toDocument.get? key = (Keyed.get? raw.writtenMembers key).or (raw.extra.get? key) :=
  Keyed.get?_insertAll raw.writtenMembers (nodup_writtenMembers raw) raw.extra key

/-- The members with a meaning, one by one. -/
private theorem get?_writtenMembers (raw : RawParameter) (key : String) :
    Keyed.get? raw.writtenMembers key =
      if key = "name" then some (.str raw.name)
      else if key = "in" then some (.str raw.location.word)
      else if key = "description" then raw.description.map .str
      else if key = "required" then if raw.required then some (.bool true) else none
      else if key = "schema" then if raw.schema.isNull then none else some raw.schema
      else if key = "x-required-group" then raw.requiredGroup.map .str
      else none := by
  have optional (text : Option String) (name : String) :
      Keyed.get? (text.toList.map fun text => (name, Document.str text)) key =
        if key = name then text.map .str else none := by
    cases text <;> simp [Keyed.get?, eq_comm]
  have flagged (flag : Bool) (name : String) (value : Document) :
      Keyed.get? (if flag then [(name, value)] else []) key =
        if key = name then if flag then some value else none else none := by
    cases flag <;> simp [Keyed.get?, eq_comm]
  have unflagged (flag : Bool) (name : String) (value : Document) :
      Keyed.get? (if flag then [] else [(name, value)]) key =
        if key = name then if flag then none else some value else none := by
    cases flag <;> simp [Keyed.get?, eq_comm]
  simp only [writtenMembers, Keyed.get?_append, optional, flagged, unflagged, Keyed.get?]
  grind

/-- A written object has no members besides those with a meaning and the kept ones. -/
theorem get?_toDocument_of_notMem {key : String} (unknown : key ∉ knownKeys) (raw : RawParameter) :
    raw.toDocument.get? key = raw.extra.get? key := by
  simp only [knownKeys, List.mem_cons, List.not_mem_nil, or_false, not_or] at unknown
  obtain ⟨name, location, description, required, schema, group⟩ := unknown
  simp [get?_toDocument, get?_writtenMembers, *]

/-- The members of a written object with a meaning, when the kept ones have none. -/
theorem get?_toDocument_of_mem {key : String} (raw : RawParameter) (plain : raw.extra.get? key = none) :
    raw.toDocument.get? key =
      if key = "name" then some (.str raw.name)
      else if key = "in" then some (.str raw.location.word)
      else if key = "description" then raw.description.map .str
      else if key = "required" then if raw.required then some (.bool true) else none
      else if key = "schema" then if raw.schema.isNull then none else some raw.schema
      else if key = "x-required-group" then raw.requiredGroup.map .str
      else none := by
  rw [get?_toDocument, plain, Option.or_none, get?_writtenMembers]

theorem textAt?_in_toDocument (raw : RawParameter) :
    raw.toDocument.textAt? "in" = some raw.location.word := by
  rw [Document.textAt?, get?_toDocument, get?_writtenMembers]
  rfl

/-- Reading an object by its members. -/
theorem ofDocument_obj {members : Keyed Document} {name : String} {location : Location}
    {description group : Option String} {required : Bool}
    (hasName : members.get? "name" = some (.str name))
    (hasLocation : members.get? "in" = some (.str location.word))
    (hasDescription : members.get? "description" = description.map .str)
    (hasRequired : members.get? "required" = if required then some (.bool true) else none)
    (hasGroup : members.get? "x-required-group" = group.map .str) :
    ofDocument (.obj members) = .ok {
      name, location, description, required
      schema := (members.get? "schema").getD .null
      requiredGroup := group
      extra := members.filter fun (key, _) => !knownKeys.contains key } := by
  have word : readLocation (.str location.word) = .ok location := by cases location <;> rfl
  simp only [ofDocument, readMember, hasName, hasLocation, hasDescription, hasRequired, hasGroup, word,
    readText]
  cases description <;> cases required <;> cases group <;> rfl

private theorem keys_writtenMembers (raw : RawParameter) :
    ∀ key ∈ Keyed.keys raw.writtenMembers, key ∈ knownKeys := by
  rw [writtenMembers]
  cases raw.description <;> cases raw.required <;> cases raw.schema.isNull <;>
    cases raw.requiredGroup <;> simp [Keyed.keys, knownKeys]

/-- A parameter that was written is read back. -/
theorem ofDocument_toDocument {raw : RawParameter} (plain : ∀ key ∈ knownKeys, raw.extra.get? key = none) :
    ofDocument raw.toDocument = .ok raw := by
  have known {key : String} (member : key ∈ knownKeys) :
      Keyed.get? (Keyed.insertAll raw.extra raw.writtenMembers) key = Keyed.get? raw.writtenMembers key := by
    have found := get?_toDocument raw key
    rwa [plain key member, Option.or_none] at found
  have hasName : Keyed.get? (Keyed.insertAll raw.extra raw.writtenMembers) "name" =
      some (.str raw.name) := by
    rw [known (by decide), get?_writtenMembers]
    rfl
  have hasLocation : Keyed.get? (Keyed.insertAll raw.extra raw.writtenMembers) "in" =
      some (.str raw.location.word) := by
    rw [known (by decide), get?_writtenMembers]
    rfl
  have hasDescription : Keyed.get? (Keyed.insertAll raw.extra raw.writtenMembers) "description" =
      raw.description.map .str := by
    rw [known (by decide), get?_writtenMembers]
    rfl
  have hasRequired : Keyed.get? (Keyed.insertAll raw.extra raw.writtenMembers) "required" =
      if raw.required then some (.bool true) else none := by
    rw [known (by decide), get?_writtenMembers]
    rfl
  have hasGroup : Keyed.get? (Keyed.insertAll raw.extra raw.writtenMembers) "x-required-group" =
      raw.requiredGroup.map .str := by
    rw [known (by decide), get?_writtenMembers]
    rfl
  have hasSchema : (Keyed.get? (Keyed.insertAll raw.extra raw.writtenMembers) "schema").getD .null =
      raw.schema := by
    rw [known (by decide), get?_writtenMembers]
    cases schema : raw.schema <;> simp [Document.isNull]
  have extra : (Keyed.insertAll raw.extra raw.writtenMembers).filter
      (fun (key, _) => !knownKeys.contains key) = raw.extra := by
    refine (Keyed.filter_insertAll (fun key => !knownKeys.contains key) ?_ raw.extra).trans ?_
    · intro key member
      simpa using keys_writtenMembers raw key member
    · rw [List.filter_eq_self]
      intro entry member
      have unknown : entry.1 ∉ knownKeys := fun known =>
        Keyed.get?_eq_none_iff.mp (plain entry.1 known) (List.mem_map_of_mem member)
      simpa using unknown
  have read := ofDocument_obj hasName hasLocation hasDescription hasRequired hasGroup
  rwa [hasSchema, extra] at read

/-- A parameter whose references follow renamed schemas. -/
def renameReferences (renames : Keyed String) (raw : RawParameter) : RawParameter :=
  { raw with
    schema := Rest.renameReferences renames raw.schema
    extra := raw.extra.map fun (key, value) => (key, renameMember renames key value) }

section References

variable (renames : Keyed String)

@[simp] theorem name_renameReferences (raw : RawParameter) : (raw.renameReferences renames).name = raw.name := rfl

@[simp] theorem location_renameReferences (raw : RawParameter) :
    (raw.renameReferences renames).location = raw.location := rfl

@[simp] theorem description_renameReferences (raw : RawParameter) :
    (raw.renameReferences renames).description = raw.description := rfl

@[simp] theorem required_renameReferences (raw : RawParameter) :
    (raw.renameReferences renames).required = raw.required := rfl

@[simp] theorem schema_renameReferences (raw : RawParameter) :
    (raw.renameReferences renames).schema = Rest.renameReferences renames raw.schema := rfl

@[simp] theorem requiredGroup_renameReferences (raw : RawParameter) :
    (raw.renameReferences renames).requiredGroup = raw.requiredGroup := rfl

private theorem writtenMembers_renameReferences (raw : RawParameter) :
    (raw.renameReferences renames).writtenMembers =
      raw.writtenMembers.map fun (key, value) => (key, renameMember renames key value) := by
  have optional {key : String} (plain : key ≠ "$ref") (text : Option String) :
      ((text.toList.map fun text => (key, Document.str text)).map
        fun (key, value) => (key, renameMember renames key value)) =
          text.toList.map fun text => (key, Document.str text) := by
    cases text with
    | none => rfl
    | some text => simp [renameMember_of_ne renames plain, Rest.renameReferences]
  have required : ((if raw.required then [("required", Document.bool true)] else []).map
      fun (key, value) => (key, renameMember renames key value)) =
        if raw.required then [("required", Document.bool true)] else [] := by
    split <;> rfl
  have schema : ((if raw.schema.isNull then [] else [("schema", raw.schema)]).map
      fun (key, value) => (key, renameMember renames key value)) =
        if raw.schema.isNull then [] else [("schema", Rest.renameReferences renames raw.schema)] := by
    split
    · rfl
    · simp [renameMember_of_ne renames (show "schema" ≠ "$ref" by decide)]
  simp only [writtenMembers, List.map_append, optional (show "description" ≠ "$ref" by decide),
    optional (show "x-required-group" ≠ "$ref" by decide), required, schema, renameReferences,
    isNull_renameReferences]
  rfl

/-- Writing a parameter and following the references commute. -/
theorem toDocument_renameReferences (raw : RawParameter) :
    (raw.renameReferences renames).toDocument = Rest.renameReferences renames raw.toDocument := by
  change Document.obj (Keyed.insertAll _ (raw.renameReferences renames).writtenMembers) =
    Rest.renameReferences renames (.obj (Keyed.insertAll raw.extra raw.writtenMembers))
  rw [writtenMembers_renameReferences, renameReferences_obj, Keyed.map_insertAll]
  rfl

private theorem toOption_readText_renameReferences (document : Document) :
    (readText (Rest.renameReferences renames document)).toOption = (readText document).toOption := by
  cases document with
  | arr items => rw [renameReferences_arr]; rfl
  | obj members => rw [renameReferences_obj]; rfl
  | _ => rfl

private theorem toOption_readOptionalText_renameReferences (document : Document) :
    (readOptionalText (Rest.renameReferences renames document)).toOption =
      (readOptionalText document).toOption := by
  cases document with
  | arr items => rw [renameReferences_arr]; rfl
  | obj members => rw [renameReferences_obj]; rfl
  | _ => rfl

private theorem toOption_readFlag_renameReferences (document : Document) :
    (readFlag (Rest.renameReferences renames document)).toOption = (readFlag document).toOption := by
  cases document with
  | arr items => rw [renameReferences_arr]; rfl
  | obj members => rw [renameReferences_obj]; rfl
  | _ => rfl

/-- No location is called like a reference, so the null under its word stays null. -/
private theorem toOption_readLocation_renameReferences (document : Document) :
    (readLocation (Rest.renameReferences renames document)).toOption = (readLocation document).toOption := by
  cases document with
  | arr items => rw [renameReferences_arr]; rfl
  | obj members =>
    rw [renameReferences_obj]
    match members with
    | [] => rfl
    | [(word, content)] =>
      simp only [List.map_cons, List.map_nil, readLocation, toOption_bind]
      cases read : readLocationWord word with
      | error fault => rfl
      | ok location =>
        have plain : word ≠ "$ref" := by
          rintro rfl
          simp [readLocationWord, Location.ofWord?, Location.all, Location.word] at read
        rw [renameMember_of_ne renames plain]
        cases content with
        | arr items => rw [renameReferences_arr]; rfl
        | obj members => rw [renameReferences_obj]; rfl
        | _ => rfl
    | _ :: _ :: _ => rfl
  | _ => rfl

private theorem toOption_readMember_map {α : Type} {key : String} {read : Document → Except ParameterFault α}
    (plain : key ≠ "$ref")
    (same : ∀ value, (read (Rest.renameReferences renames value)).toOption = (read value).toOption)
    (members : Keyed Document) :
    (readMember (members.map fun (key, value) => (key, renameMember renames key value)) key read).toOption =
      (readMember members key read).toOption := by
  rw [readMember, readMember, Keyed.get?_map (renameMember renames)]
  cases members.get? key with
  | none => rfl
  | some found =>
    have reads := same found
    simp only [Option.map_some, renameMember_of_ne renames plain]
    revert reads
    cases read (Rest.renameReferences renames found) <;> cases read found <;>
      simp [Except.toOption, Except.map]

/-- Reading a parameter and following the references commute. -/
theorem toOption_ofDocument_renameReferences (document : Document) :
    (ofDocument (Rest.renameReferences renames document)).toOption =
      (ofDocument document).toOption.map (renameReferences renames) := by
  cases document with
  | obj members =>
    have schema : (Keyed.get? (members.map fun (key, value) => (key, renameMember renames key value))
        "schema").getD .null = Rest.renameReferences renames ((Keyed.get? members "schema").getD .null) := by
      rw [Keyed.get?_map (renameMember renames)]
      cases Keyed.get? members "schema" with
      | none => rfl
      | some schema => exact renameMember_of_ne renames (show "schema" ≠ "$ref" by decide) schema
    have extra : (members.map fun (key, value) => (key, renameMember renames key value)).filter
        (fun (key, _) => !knownKeys.contains key) =
          (members.filter fun (key, _) => !knownKeys.contains key).map
            fun (key, value) => (key, renameMember renames key value) := List.filter_map
    rw [renameReferences_obj]
    simp only [ofDocument, toOption_bind, schema, extra, Option.map_bind, Function.comp_def,
      toOption_readMember_map renames (show "description" ≠ "$ref" by decide)
        (toOption_readOptionalText_renameReferences renames) members,
      toOption_readMember_map renames (show "in" ≠ "$ref" by decide)
        (toOption_readLocation_renameReferences renames) members,
      toOption_readMember_map renames (show "name" ≠ "$ref" by decide)
        (toOption_readText_renameReferences renames) members,
      toOption_readMember_map renames (show "required" ≠ "$ref" by decide)
        (toOption_readFlag_renameReferences renames) members,
      toOption_readMember_map renames (show "x-required-group" ≠ "$ref" by decide)
        (toOption_readOptionalText_renameReferences renames) members]
    congr 1; funext description
    congr 1; funext location
    congr 1; funext name
    congr 1; funext required
    congr 1; funext group
    cases name <;> cases location <;> rfl
  | arr items => rw [renameReferences_arr]; rfl
  | _ => rfl

end References

theorem readMember_eq_ok_iff {α : Type} {members : Keyed Document} {key : String}
    {read : Document → Except ParameterFault α} {result : Option α} :
    readMember members key read = .ok result ↔
      (members.get? key = none ∧ result = none) ∨
        ∃ found value, members.get? key = some found ∧ read found = .ok value ∧ result = some value := by
  rw [readMember]
  cases members.get? key with
  | none => simp [eq_comm]
  | some found => cases reads : read found <;> simp [Except.map, reads, eq_comm]

/-- A parameter that was read has what each member with a meaning was read as, and keeps the others. -/
theorem members_of_ofDocument {document : Document} {raw : RawParameter} (read : ofDocument document = .ok raw) :
    ∃ (members : Keyed Document) (description group : Option (Option String)) (required : Option Bool),
      document = .obj members ∧
      readMember members "name" readText = .ok (some raw.name) ∧
      readMember members "in" readLocation = .ok (some raw.location) ∧
      readMember members "description" readOptionalText = .ok description ∧
      readMember members "required" readFlag = .ok required ∧
      readMember members "x-required-group" readOptionalText = .ok group ∧
      raw.required = required.getD false ∧ raw.requiredGroup = group.join ∧
      raw.schema = (members.get? "schema").getD .null ∧
      raw.extra = members.filter fun entry => !knownKeys.contains entry.1 := by
  cases document with
  | obj members =>
    simp only [ofDocument, bind_eq_ok_iff] at read
    obtain ⟨description, hasDescription, location, hasLocation, name, hasName, required, hasRequired, group, hasGroup,
      read⟩ := read
    split at read
    · simp at read
    · simp at read
    · obtain rfl := Except.ok.inj read
      exact ⟨members, description, group, required, rfl, hasName, hasLocation, hasDescription, hasRequired, hasGroup,
        rfl, rfl, rfl, rfl⟩
  | _ => simp [ofDocument] at read

/-- A parameter that was read keeps the members without a meaning and has a location of its own. -/
theorem of_ofDocument {document : Document} {raw : RawParameter} (read : ofDocument document = .ok raw) :
    ∃ members, document = .obj members ∧
      raw.extra = members.filter (fun entry => !knownKeys.contains entry.1) ∧
      ∃ found, Keyed.get? members "in" = some found ∧ readLocation found = .ok raw.location := by
  obtain ⟨members, _, _, _, object, -, hasLocation, -, -, -, -, -, -, extra⟩ := members_of_ofDocument read
  rcases readMember_eq_ok_iff.mp hasLocation with ⟨-, none⟩ | ⟨found, location, present, reads, same⟩
  · cases none
  · obtain rfl := Option.some.inj same
    exact ⟨members, object, extra, found, present, reads⟩

theorem schema_of_ofDocument {document : Document} {raw : RawParameter}
    (read : ofDocument document = .ok raw) : raw.schema = (document.get? "schema").getD .null := by
  obtain ⟨members, _, _, _, rfl, -, -, -, -, -, -, -, schema, -⟩ := members_of_ofDocument read
  exact schema

/-- A flag that is missing is false. -/
theorem get?_required_of_ofDocument {document : Document} {raw : RawParameter}
    (read : ofDocument document = .ok raw) :
    (document.get? "required" = none ∧ raw.required = false) ∨
      document.get? "required" = some (.bool raw.required) := by
  obtain ⟨members, _, _, flag, rfl, -, -, -, hasRequired, -, required, -⟩ := members_of_ofDocument read
  rcases readMember_eq_ok_iff.mp hasRequired with ⟨missing, rfl⟩ | ⟨found, value, present, reads, rfl⟩
  · exact .inl ⟨missing, required⟩
  · cases found with
    | bool value =>
      obtain rfl := Except.ok.inj reads
      exact .inr (required ▸ present)
    | _ => simp [readFlag] at reads

/-- A group that is missing or null is none. -/
theorem get?_requiredGroup_of_ofDocument {document : Document} {raw : RawParameter}
    (read : ofDocument document = .ok raw) :
    (∃ group, document.get? "x-required-group" = some (.str group) ∧ raw.requiredGroup = some group) ∨
      ((document.get? "x-required-group").getD .null = .null ∧ raw.requiredGroup = none) := by
  obtain ⟨members, _, written, _, rfl, -, -, -, -, hasGroup, -, group, -⟩ := members_of_ofDocument read
  rcases readMember_eq_ok_iff.mp hasGroup with ⟨missing, rfl⟩ | ⟨found, value, present, reads, rfl⟩
  · exact .inr ⟨by rw [Document.get?, missing, Option.getD_none], group⟩
  · cases found with
    | null =>
      obtain rfl := Except.ok.inj reads
      exact .inr ⟨by rw [Document.get?, present, Option.getD_some], group⟩
    | str text =>
      obtain rfl := Except.ok.inj reads
      exact .inl ⟨text, present, group⟩
    | _ => simp [readOptionalText] at reads

/-- In an object that was read every member with a meaning was read, except the schema, which is taken as it
is. -/
theorem forall_known_of_ofDocument {members : Keyed Document} {raw : RawParameter}
    (read : ofDocument (.obj members) = .ok raw) {key : String} (known : key ∈ knownKeys)
    (other : key ≠ "schema") {value : Document} (present : members.get? key = some value) :
    (∃ text, readOptionalText value = .ok text) ∨ (∃ location, readLocation value = .ok location) ∨
      (∃ text, readText value = .ok text) ∨ ∃ flag, readFlag value = .ok flag := by
  have reads {α : Type} {key : String} {read : Document → Except ParameterFault α} {result : Option α}
      (made : readMember members key read = .ok result) (present : members.get? key = some value) :
      ∃ found, read value = .ok found := by
    rcases readMember_eq_ok_iff.mp made with ⟨missing, -⟩ | ⟨found, result, here, made, -⟩
    · rw [missing] at present
      cases present
    · obtain rfl := Option.some.inj (here.symm.trans present)
      exact ⟨result, made⟩
  obtain ⟨_, _, _, _, object, name, location, description, required, group, -⟩ := members_of_ofDocument read
  obtain rfl := Document.obj.inj object
  simp only [knownKeys, List.mem_cons, List.not_mem_nil, or_false] at known
  rcases known with rfl | rfl | rfl | rfl | rfl | rfl
  · exact .inr (.inr (.inl (reads name present)))
  · exact .inr (.inl (reads location present))
  · exact .inl (reads description present)
  · exact .inr (.inr (.inr (reads required present)))
  · exact absurd rfl other
  · exact .inl (reads group present)

/-- The members without a meaning are those of the object, except the known ones. -/
theorem get?_extra_of_ofDocument {document : Document} {raw : RawParameter}
    (read : ofDocument document = .ok raw) (key : String) :
    raw.extra.get? key = if key ∈ knownKeys then none else document.get? key := by
  obtain ⟨members, rfl, extra, -⟩ := of_ofDocument read
  rw [extra, Keyed.get?_filter fun key => !knownKeys.contains key]
  by_cases known : key ∈ knownKeys <;> simp [known, Document.get?]

/-- A location that is written as a text is the one that the text names. -/
theorem textAt?_in_of_ofDocument {document : Document} {raw : RawParameter} {word : String}
    (read : ofDocument document = .ok raw) (text : document.textAt? "in" = some word) :
    word = raw.location.word := by
  obtain ⟨members, rfl, -, found, present, reads⟩ := of_ofDocument read
  have named : found = .str word := by
    simp only [Document.textAt?, Document.get?, present, Option.bind_some] at text
    cases found <;> simp [Document.text?] at text
    rw [text]
  subst named
  rw [readLocation, readLocationWord] at reads
  cases located : Location.ofWord? word with
  | none => simp [located] at reads
  | some location =>
    simp only [located, Except.ok.injEq] at reads
    subst reads
    exact (by simpa using List.find?_some located : raw.location.word = word).symm

theorem textAt?_in_of_isSome {document : Document} {raw : RawParameter}
    (read : ofDocument document = .ok raw) (located : (document.textAt? "in").isSome) :
    document.textAt? "in" = some raw.location.word := by
  obtain ⟨word, text⟩ := Option.isSome_iff_exists.mp located
  rw [text, textAt?_in_of_ofDocument read text]

end RawParameter

/-- Only the path has its word. -/
theorem Location.word_eq_path_iff {location : Location} : location.word = "path" ↔ location = .path := by
  cases location <;> decide

end QuerySynth
