import QuerySynth.Proofs.Endpoint.Normalized

/-! # The kind of an operation, told twice

A normal form looks up the descriptions of a request by the kind that the written locations of the entries
tell. Building an endpoint goes by the collected parameters, after references, reading and replacing. Both
tell the same kind exactly when the entries of the operation say and read alike, all taken together;
replacing plays no part in it. Entries that are references need not: the first look does not follow them.
-/

namespace QuerySynth

open Rest

/-- The written location of an entry is the path. -/
def SaysPath (entry : Document) : Prop :=
  entry.textAt? "in" = some "path"

/-- An entry is read as a path parameter, through its reference if it is one. -/
def ReadsPath (document entry : Document) : Prop :=
  ∃ raw, readEntry document entry = .ok raw ∧ raw.location = .path

/-- A parameter that is written where it is used, with its location as a text. -/
structure PlainEntry (entry : Document) : Prop where
  inline : entry.textAt? "$ref" = none
  reads : ∃ raw, RawParameter.ofDocument entry = .ok raw
  located : (entry.textAt? "in").isSome

/-- A plain entry says its location and is read with it. -/
theorem PlainEntry.saysPath_iff {document entry : Document} (plain : PlainEntry entry) :
    SaysPath entry ↔ ReadsPath document entry := by
  obtain ⟨raw, read⟩ := plain.reads
  have entryRead : readEntry document entry = .ok raw := by
    simp [readEntry, plain.inline, read]
  rw [SaysPath, RawParameter.textAt?_in_of_isSome read plain.located, Option.some.injEq,
    Location.word_eq_path_iff, ReadsPath, entryRead]
  simp

/-- The collected parameters make a Get exactly when some entry is read as a path parameter. -/
theorem kindOf_collect_eq_get_iff {document : Document} {path method : String} :
    kindOf (collect document path method).1 = .get ↔
      ∃ entry ∈ parameterEntries document path method, ReadsPath document entry := by
  rw [kindOf_eq_get_iff, fst_collect, exists_location_foldl_putParameter]
  simp only [List.not_mem_nil, false_and, exists_false, false_or, List.mem_filterMap, toOption_eq_some_iff,
    ReadsPath]
  constructor
  · rintro ⟨raw, ⟨entry, member, read⟩, located⟩
    exact ⟨entry, member, raw, read, located⟩
  · rintro ⟨entry, member, raw, read, located⟩
    exact ⟨raw, ⟨entry, member, read⟩, located⟩

section Told

variable {document item operation : Document} {description : Description} {path : String}

/-- A GET operation has the same kind in a normal form and in the endpoints exactly when some entry says
the path just if some entry is read as a path parameter. Plain entries see to that. -/
theorem operationKind_eq_kindOf_iff (accepted : Description.ofDocument? document = some description)
    (listed : (pathItems document).get? path = some item) (present : item.get? "get" = some operation) :
    (NormalizeScope.operationKind item operation = kindOf (collect description.document path "get").1 ↔
      ((∃ entry ∈ parameterEntries document path "get", SaysPath entry) ↔
        ∃ entry ∈ parameterEntries document path "get", ReadsPath description.document entry)) ∧
    ((∀ entry ∈ parameterEntries document path "get", PlainEntry entry) →
      NormalizeScope.operationKind item operation = kindOf (collect description.document path "get").1) := by
  have entries : parameterEntries document path "get" =
      entriesOf (some item) ++ entriesOf (some operation) := by
    rw [parameterEntries_eq, listed, Option.bind_some, present]
  have same : parameterEntries description.document path "get" = parameterEntries document path "get" := by
    rw [document_of_ofDocument? accepted, parameterEntries_strip _ _ (by decide)]
  have alike : NormalizeScope.operationKind item operation =
      kindOf (collect description.document path "get").1 ↔
        ((∃ entry ∈ parameterEntries document path "get", SaysPath entry) ↔
          ∃ entry ∈ parameterEntries document path "get", ReadsPath description.document entry) := by
    rw [MethodKind.eq_iff_eq_get_iff, operationKind_eq, ← entries, entryKind_eq_get_iff,
      kindOf_collect_eq_get_iff, same]
    rfl
  refine ⟨alike, fun plain => alike.mpr ?_⟩
  refine exists_congr fun entry => and_congr_right fun member => ?_
  exact (plain entry member).saysPath_iff

end Told

/-- A description of one item by its key, with one parameter entry. -/
def keyedDocument (entry : Document) : Document :=
  .obj [("components", .obj [("parameters", .obj [("ItemId",
      .obj [("in", .str "path"), ("name", .str "item_id"), ("required", .bool true)])])]),
    ("info", .obj [("title", .str "Items"), ("version", .str "1")]), ("openapi", .str "3.0.0"),
    ("paths", .obj [("/items/\x7bitem_id\x7d", .obj [("get", .obj [("parameters", .arr [entry])])])])]

/-- The key as a parameter of its operation. -/
def keyEntry : Document :=
  .obj [("in", .str "path"), ("name", .str "item_id"), ("required", .bool true)]

def keyReference : Document :=
  .obj [("$ref", .str "#/components/parameters/ItemId")]

def keyedOperation (entry : Document) : Document :=
  .obj [("parameters", .arr [entry])]

/-- Where the key stands in the operation, both looks tell a Get. -/
theorem operationKind_keyEntry :
    ∃ description, Description.ofDocument? (keyedDocument keyEntry) = some description ∧
      kindOf (collect description.document "/items/\x7bitem_id\x7d" "get").1 = .get ∧
      NormalizeScope.operationKind (.obj [("get", keyedOperation keyEntry)]) (keyedOperation keyEntry) =
        kindOf (collect description.document "/items/\x7bitem_id\x7d" "get").1 := by
  have conforms : isOpenApi (strip (keyedDocument keyEntry)) = true := isOpenApi_strip rfl (by cbv)
  have accepted : Description.ofDocument? (keyedDocument keyEntry) =
      some ⟨strip (keyedDocument keyEntry), conforms, by decide⟩ := dif_pos ⟨conforms, by decide⟩
  have collected : kindOf (collect (strip (keyedDocument keyEntry)) "/items/\x7bitem_id\x7d" "get").1 =
      .get := by
    decide +kernel
  refine ⟨_, accepted, collected, (operationKind_eq_kindOf_iff accepted rfl rfl).2 ?_⟩
  intro entry member
  obtain rfl : entry = keyEntry := List.mem_singleton.mp member
  exact ⟨rfl, ⟨{ name := "item_id", location := .path, required := true }, rfl⟩, rfl⟩

/-- Where the key is a reference, the written locations tell a List and the collected parameters a Get. -/
theorem operationKind_keyReference :
    ∃ description, Description.ofDocument? (keyedDocument keyReference) = some description ∧
      NormalizeScope.operationKind (.obj [("get", keyedOperation keyReference)])
        (keyedOperation keyReference) = .list ∧
      kindOf (collect description.document "/items/\x7bitem_id\x7d" "get").1 = .get := by
  have conforms : isOpenApi (strip (keyedDocument keyReference)) = true := isOpenApi_strip rfl (by cbv)
  have accepted : Description.ofDocument? (keyedDocument keyReference) =
      some ⟨strip (keyedDocument keyReference), conforms, by decide⟩ := dif_pos ⟨conforms, by decide⟩
  have collected : kindOf (collect (strip (keyedDocument keyReference)) "/items/\x7bitem_id\x7d" "get").1 =
      .get := by
    decide +kernel
  exact ⟨_, accepted, by decide, collected⟩

end QuerySynth
