import QuerySynth.Proofs.Rest.Normalize

/-! # The base path of a description

The grammar admits servers as a list only. So the base path that a normal form looks up in its document
is the one of the validated description, and the normal form has the same.
-/

namespace QuerySynth.Rest

section Forms

variable {π : Type} {grammar : Grammar π}

theorem admits_of_admitsMembers {forms : List (MemberForm π)} {members : Keyed Document} {key : String}
    {value : Document} {form : MemberForm π} (admits : admitsMembers grammar forms members = true)
    (stored : (key, value) ∈ members) (named : forms.find? (·.key == key) = some form) :
    form.form.admits grammar value = true := by
  induction members with
  | nil => simp at stored
  | cons head rest ih =>
    obtain ⟨k, v⟩ := head
    rw [admitsMembers, Bool.and_eq_true] at admits
    rcases List.mem_cons.mp stored with same | later
    · obtain ⟨rfl, rfl⟩ := Prod.mk.inj same
      simpa [named] using admits.1
    · exact ih admits.2 later

theorem eq_arr_of_admits_list {item : Form π} {value : Document}
    (admits : (Form.list item).admits grammar value = true) : ∃ items, value = .arr items := by
  cases value with
  | arr items => exact ⟨items, rfl⟩
  | _ => simp [Form.admits, meetsLeaf] at admits

end Forms

/-- The servers of a description are a list. -/
theorem eq_arr_of_isOpenApi {document servers : Document} (conforms : isOpenApi document = true)
    (present : document.get? "servers" = some servers) : ∃ items, servers = .arr items := by
  cases document with
  | obj members =>
    rw [isOpenApi, Form.admits, Bool.and_eq_true] at conforms
    have named : (Part.members .description).find? (·.key == "servers") =
        some (Part.may "servers" (.list (.part .server))) := rfl
    have admits := admits_of_admitsMembers conforms.2 (Keyed.mem_of_get? present) named
    exact eq_arr_of_admits_list admits
  | _ => simp [Document.get?] at present

theorem pointer?_server (document : Document) :
    document.pointer? "/servers/0/url" =
      ((document.child? "servers").bind (·.child? "0")).bind (·.child? "url") := by
  have split : Text.splitOn '/' "servers/0/url".toList =
      ["servers".toList, "0".toList, "url".toList] := by decide
  have first : Document.stepText "servers".toList = "servers" := by decide
  have second : Document.stepText "0".toList = "0" := by decide
  have third : Document.stepText "url".toList = "url" := by decide
  change (Text.splitOn '/' "servers/0/url".toList).foldlM
    (fun value piece => value.child? (Document.stepText piece)) document = _
  rw [split]
  simp only [List.foldlM_cons, List.foldlM_nil, first, second, third, Option.bind_eq_bind, Option.pure_def,
    Option.bind_fun_some, Option.bind_assoc]

/-- Only an object has a member of a name that is no position. -/
theorem child?_eq_get? (document : Document) {step : String} (word : Document.position? step = none) :
    document.child? step = document.get? step := by
  cases document with
  | obj members => rfl
  | arr items => simp [Document.child?, Document.get?, word]
  | _ => rfl

theorem child?_zero_arr (items : List Document) : (Document.arr items).child? "0" = items.head? := by
  have zero : Document.position? "0" = some 0 := by decide
  cases items <;> simp [Document.child?, zero]

/-- The base path of a description is the one that its document names. -/
theorem documentBasePath_eq (description : Description) :
    documentBasePath description.document = description.basePath := by
  rw [documentBasePath, Description.basePath, pointer?_server, child?_eq_get? _ (by decide)]
  cases present : description.document.get? "servers" with
  | none => rfl
  | some servers =>
    obtain ⟨items, rfl⟩ := eq_arr_of_isOpenApi description.conforms present
    rw [Option.bind_some, child?_zero_arr]
    cases items with
    | nil => rfl
    | cons server rest =>
      simp only [List.head?_cons, Option.bind_some,
        child?_eq_get? server (show Document.position? "url" = none by decide)]
      rfl

/-- Following references leaves the base path. -/
theorem basePath_eq_of_renameReferences (renames : Keyed String) {before after : Description}
    (servers : after.document.get? "servers" =
      (before.document.get? "servers").map (renameReferences renames)) :
    after.basePath = before.basePath := by
  rw [Description.basePath, Description.basePath, servers]
  cases present : before.document.get? "servers" with
  | none => rfl
  | some servers =>
    obtain ⟨items, rfl⟩ := eq_arr_of_isOpenApi before.conforms present
    cases items with
    | nil => rw [Option.map_some, renameReferences_arr]; rfl
    | cons server rest =>
      rw [Option.map_some, renameReferences_arr, List.map_cons]
      simp only [textAt?_renameReferences renames "url" (by decide)]

theorem child?_renameReferences (renames : Keyed String) {step : String} (plain : step ≠ "$ref")
    (document : Document) :
    (renameReferences renames document).child? step =
      (document.child? step).map (renameReferences renames) := by
  cases document with
  | obj members =>
    have found := get?_renameReferences_of_ne renames step plain (.obj members)
    rwa [renameReferences_obj] at found ⊢
  | arr items =>
    rw [renameReferences_arr, Document.child?, Document.child?]
    cases Document.position? step with
    | none => rfl
    | some position => simp
  | _ => rfl

/-- A normal form names the base path of its document. -/
theorem documentBasePath_normalizeDocument (document : Document) (schema : Schema) (registry : Registry)
    (basePath : Option String) :
    documentBasePath (normalizeDocument document schema registry basePath).1 = documentBasePath document := by
  have servers : (normalizeDocument document schema registry basePath).1.child? "servers" =
      (document.child? "servers").map
        (renameReferences (renamesOf document schema registry basePath)) := by
    have plain : renameMember (renamesOf document schema registry basePath) "servers" =
        renameReferences (renamesOf document schema registry basePath) :=
      funext (renameMember_of_ne _ (by decide))
    rw [child?_eq_get? _ (by decide), get?_normalizeDocument _ _ _ _ (by decide), plain,
      NormalizeScope.normalizeParameters, Document.get?_mapMember, if_neg (by decide),
      Document.get?_mapMember, if_neg (by decide), child?_eq_get? _ (by decide)]
  rw [documentBasePath, pointer?_server, servers, documentBasePath, pointer?_server]
  cases document.child? "servers" with
  | none => rfl
  | some servers =>
    rw [Option.map_some, Option.bind_some, Option.bind_some, child?_renameReferences _ (by decide)]
    cases servers.child? "0" with
    | none => rfl
    | some server =>
      rw [Option.map_some, Option.bind_some, Option.bind_some, child?_renameReferences _ (by decide)]
      cases server.child? "url" with
      | none => rfl
      | some url => rw [Option.map_some, Option.bind_some, Option.bind_some, text?_renameReferences]

theorem document_of_ofDocument? {document : Document} {description : Description}
    (reads : Description.ofDocument? document = some description) :
    description.document = strip document := by
  simp only [Description.ofDocument?] at reads
  split at reads
  · obtain rfl := Option.some.inj reads
    rfl
  · simp at reads

theorem get?_strip_of_ne {key : String} (other : key ≠ "paths") (document : Document) :
    (strip document).get? key = document.get? key := by
  rw [strip, Document.get?_mapMember, if_neg other]

section Normalized

variable {document : Document} {before after : Description} {schema : Schema} {registry : Registry}
  {basePath : Option String}

/-- A document and its description name the same base path. -/
theorem basePath_of_ofDocument? (reads : Description.ofDocument? document = some before) :
    documentBasePath document = before.basePath := by
  have servers : before.document.get? "servers" = document.get? "servers" := by
    rw [document_of_ofDocument? reads, get?_strip_of_ne (by decide)]
  rw [← documentBasePath_eq, documentBasePath, documentBasePath, pointer?_server, pointer?_server,
    child?_eq_get? document (by decide), child?_eq_get? before.document (by decide), servers]

/-- A description and that of the normal form have the same base path. -/
theorem basePath_normalizeDocument (reads : Description.ofDocument? document = some before)
    (readsNormal : Description.ofDocument? (normalizeDocument document schema registry basePath).1 =
      some after) : after.basePath = before.basePath := by
  have plain : renameMember (renamesOf document schema registry basePath) "servers" =
      renameReferences (renamesOf document schema registry basePath) :=
    funext (renameMember_of_ne _ (by decide))
  refine basePath_eq_of_renameReferences (renamesOf document schema registry basePath) ?_
  rw [document_of_ofDocument? reads, document_of_ofDocument? readsNormal, get?_strip_of_ne (by decide),
    get?_strip_of_ne (by decide), get?_normalizeDocument _ _ _ _ (by decide), plain,
    NormalizeScope.normalizeParameters, Document.get?_mapMember, if_neg (by decide),
    Document.get?_mapMember, if_neg (by decide)]

/-- A description and that of the normal form have the same operations. -/
theorem operations_normalizeDocument (reads : Description.ofDocument? document = some before)
    (readsNormal : Description.ofDocument? (normalizeDocument document schema registry basePath).1 =
      some after) : after.operations = before.operations := by
  rw [Description.operations, Description.operations, document_of_ofDocument? reads,
    document_of_ofDocument? readsNormal, operationsOf_strip, operationsOf_strip, operationsOf_normalizeDocument]

end Normalized

end QuerySynth.Rest
