import QuerySynth.Proofs.Endpoint.Build
import QuerySynth.Proofs.Endpoint.Rename
import QuerySynth.Proofs.Parameter.Object
import QuerySynth.Proofs.Rest.BasePath
import QuerySynth.Proofs.Rest.Collect

/-! # Endpoints of a normal form

Building endpoints from the normal form of a document gives the endpoints of the document, with every
raw name in delimited form, and the same diagnostics. The parameter entries of both sides are read,
collected and flattened in step; all later steps see flattened parameters only.

Names outside ASCII are left out, since their delimited form need not be stable. So are entries that a
normal form leaves as they are, and names that fall together in delimited form only.
-/

namespace QuerySynth

open Text Rest

/-- Parameter entries that a normal form rewrites without confusing them. -/
structure PlainEntries (entries : List Document) : Prop where
  /-- No entry is a reference. -/
  inline : ∀ entry ∈ entries, entry.get? "$ref" = none
  /-- Every entry is a parameter with an ASCII name. -/
  reads : ∀ entry ∈ entries, ∃ raw, RawParameter.ofDocument entry = .ok raw ∧
    ∀ c ∈ raw.name.toList, IsAscii c
  /-- Every location is written as a text. -/
  located : ∀ entry ∈ entries, (entry.textAt? "in").isSome
  /-- Parameters of one location with one delimited name are written alike. -/
  alike : ∀ first ∈ entries, ∀ second ∈ entries, ∀ a b,
    RawParameter.ofDocument first = .ok a → RawParameter.ofDocument second = .ok b →
      Name.normalize a.name = Name.normalize b.name → a.location = b.location → a.name = b.name

/-- A parameter and the one that is read from its normal form, as flattening sees them. -/
structure Corresponds (ctx : FlattenContext) (raw again : RawParameter) : Prop where
  name : again.name = Name.normalize raw.name
  location : again.location = raw.location
  flattens : (again.flatten ctx).parameter = (raw.flatten ctx).parameter.rename Name.normalize

/-- An entry in normal form is read as a corresponding parameter. -/
theorem corresponds_normalEntry {entry : Document} {raw : RawParameter} {ctx written : FlattenContext}
    (renames : Keyed String) (inline : entry.get? "$ref" = none)
    (read : RawParameter.ofDocument entry = .ok raw) (ascii : ∀ c ∈ raw.name.toList, IsAscii c)
    (sameRegistry : written.registry = ctx.registry) (sameWrappers : written.wrappers = ctx.wrappers)
    (known : written.descriptions = ctx.descriptions ∨ written.descriptions = []) :
    (normalEntry renames written entry).get? "$ref" = none ∧
      ∃ again, RawParameter.ofDocument (normalEntry renames written entry) = .ok again ∧
        Corresponds ctx raw again := by
  have inline' := inlineParameter?_normalEntry renames written (inlineParameter?_eq_some_iff.mpr ⟨inline, read⟩)
  obtain ⟨noReference, reread⟩ := inlineParameter?_eq_some_iff.mp inline'
  have name : ((flattened written raw).renameReferences renames).name = Name.normalize raw.name := by simp
  have location : ((flattened written raw).renameReferences renames).location = raw.location := by simp
  refine ⟨noReference, _, reread, name, location, ?_⟩
  rw [Parameter.rename, rawName_flatten]
  exact flatten_flattened renames ascii sameRegistry sameWrappers known name location
    (RawParameter.description_renameReferences ..) (by simp) (RawParameter.schema_renameReferences ..) (by simp)

/-- The kind that the entries of an operation tell is that of the collected parameters. -/
theorem kindOf_foldl_putParameter {entries : List Document} {raws : List RawParameter}
    (reads : List.Forall₂ (fun entry raw => RawParameter.ofDocument entry = .ok raw) entries raws)
    (located : ∀ entry ∈ entries, (entry.textAt? "in").isSome) :
    kindOf (raws.foldl putParameter []) = entryKind entries := by
  have told {entry : Document} {raw : RawParameter} (member : entry ∈ entries)
      (read : RawParameter.ofDocument entry = .ok raw) :
      entry.textAt? "in" = some "path" ↔ raw.location = .path := by
    rw [RawParameter.textAt?_in_of_isSome read (located entry member), Option.some.injEq,
      Location.word_eq_path_iff]
  rw [MethodKind.eq_iff_eq_get_iff, kindOf_eq_get_iff, entryKind_eq_get_iff,
    exists_location_foldl_putParameter]
  simp only [List.not_mem_nil, false_and, exists_false, false_or]
  constructor
  · rintro ⟨raw, collected, inPath⟩
    obtain ⟨entry, member, read⟩ := exists_left_of_mem reads collected
    exact ⟨entry, member, (told member read).mpr inPath⟩
  · rintro ⟨entry, member, inPath⟩
    obtain ⟨raw, collected, read⟩ := exists_right_of_mem reads member
    exact ⟨raw, collected, (told member read).mp inPath⟩

theorem flattenAll_of_forall₂ {schema : Schema} {registry : Registry} {request : Message}
    {raws agains : List RawParameter}
    (related : List.Forall₂ (Corresponds ⟨registry, request.descriptions, schema.wrappers⟩) raws agains) :
    flattenAll schema registry request agains =
      (flattenAll schema registry request raws).map (·.rename Name.normalize) := by
  induction related with
  | nil => rfl
  | cons corresponds _ ih =>
    simp only [flattenAll, List.map_cons] at ih ⊢
    rw [ih, corresponds.flattens]

theorem keyCount_of_forall₂ {ctx : FlattenContext} {raws agains : List RawParameter}
    (related : List.Forall₂ (Corresponds ctx) raws agains) : keyCount agains = keyCount raws := by
  induction related with
  | nil => rfl
  | cons corresponds _ ih =>
    simp only [keyCount, List.filter_cons, corresponds.location] at ih ⊢
    split <;> simp [ih]

/-- Every entry that a normal form rewrites is read on both sides, as corresponding parameters. -/
private theorem exists_corresponding {ctx : FlattenContext} {renames : Keyed String}
    {contexts : List FlattenContext} {entries entries' : List Document}
    (sees : ∀ written ∈ contexts, written.registry = ctx.registry ∧ written.wrappers = ctx.wrappers ∧
      (written.descriptions = ctx.descriptions ∨ written.descriptions = []))
    (inline : ∀ entry ∈ entries, entry.get? "$ref" = none)
    (reads : ∀ entry ∈ entries, ∃ raw, RawParameter.ofDocument entry = .ok raw ∧
      ∀ c ∈ raw.name.toList, IsAscii c)
    (rewritten : List.Forall₂
      (fun entry entry' => ∃ written ∈ contexts, entry' = normalEntry renames written entry)
      entries entries') :
    ∃ raws agains,
      List.Forall₂ (fun entry raw => RawParameter.ofDocument entry = .ok raw) entries raws ∧
      List.Forall₂ (fun entry' again => entry'.get? "$ref" = none ∧
        RawParameter.ofDocument entry' = .ok again) entries' agains ∧
      List.Forall₂ (Corresponds ctx) raws agains := by
  induction rewritten with
  | nil => exact ⟨[], [], .nil, .nil, .nil⟩
  | @cons entry entry' entries entries' head _ ih =>
    obtain ⟨raws, agains, before, after, related⟩ :=
      ih (fun entry member => inline entry (List.mem_cons_of_mem _ member))
        (fun entry member => reads entry (List.mem_cons_of_mem _ member))
    obtain ⟨written, chosen, rfl⟩ := head
    obtain ⟨sameRegistry, sameWrappers, known⟩ := sees written chosen
    obtain ⟨raw, read, ascii⟩ := reads entry List.mem_cons_self
    obtain ⟨inline', again, read', corresponds⟩ := corresponds_normalEntry renames
      (inline entry List.mem_cons_self) read ascii sameRegistry sameWrappers known
    exact ⟨raw :: raws, again :: agains, .cons read before, .cons ⟨inline', read'⟩ after,
      .cons corresponds related⟩

/-- Corresponding parameters are collected to corresponding ones, as names and locations agree on both
sides. -/
theorem forall₂_corresponds_collected {ctx : FlattenContext} {entries : List Document}
    {raws agains : List RawParameter} (plain : PlainEntries entries)
    (reads : List.Forall₂ (fun entry raw => RawParameter.ofDocument entry = .ok raw) entries raws)
    (related : List.Forall₂ (Corresponds ctx) raws agains) :
    List.Forall₂ (Corresponds ctx) (raws.foldl putParameter []) (agains.foldl putParameter []) := by
  have present : List.Forall₂ (fun raw again => raw ∈ raws ∧ Corresponds ctx raw again) raws agains :=
    (List.forall₂_and_left _ _).mpr ⟨fun raw member => member, related⟩
  refine (forall₂_foldl_putParameter ?_ present).imp fun raw again both => both.2
  rintro old old' raw raw' ⟨oldMember, oldCorresponds⟩ ⟨member, corresponds⟩
  rw [oldCorresponds.name, oldCorresponds.location, corresponds.name, corresponds.location]
  constructor
  · rintro ⟨name, location⟩
    exact ⟨by rw [name], location⟩
  · rintro ⟨name, location⟩
    obtain ⟨first, firstMember, firstRead⟩ := exists_left_of_mem reads oldMember
    obtain ⟨second, secondMember, secondRead⟩ := exists_left_of_mem reads member
    exact ⟨plain.alike first firstMember second secondMember old raw firstRead secondRead name location,
      location⟩

section Normalized

variable {document : Document} {before after : Description} {schema : Schema} {options : BuildOptions}

/-- Both descriptions collect corresponding parameters, without a report. -/
theorem collect_normalizeDocument (reads : Description.ofDocument? document = some before)
    (readsNormal : Description.ofDocument?
      (normalizeDocument document schema options.registry options.basePath).1 = some after)
    {path method : String} (member : method ∈ iteratedMethods)
    (plain : PlainEntries (parameterEntries before.document path method)) :
    ∃ raws agains, collect before.document path method = (raws, []) ∧
      collect after.document path method = (agains, []) ∧
      kindOf raws = entryKind (parameterEntries before.document path method) ∧
      List.Forall₂ (Corresponds (entryContext (scopeOf document schema options.registry options.basePath)
        path (parameterEntries before.document path method))) raws agains := by
  have entries : parameterEntries before.document path method = parameterEntries document path method := by
    rw [document_of_ofDocument? reads, parameterEntries_strip _ _ member]
  have entries' : parameterEntries after.document path method =
      parameterEntries (normalizeDocument document schema options.registry options.basePath).1 path
        method := by
    rw [document_of_ofDocument? readsNormal, parameterEntries_strip _ _ member]
  have rewritten := parameterEntries_normalizeDocument document schema options.registry options.basePath
    path member
  rw [← entries, ← entries'] at rewritten
  generalize context : entryContext (scopeOf document schema options.registry options.basePath) path
    (parameterEntries before.document path method) = ctx at rewritten ⊢
  have sees : ∀ written ∈ [(scopeOf document schema options.registry options.basePath).plainContext, ctx],
      written.registry = ctx.registry ∧ written.wrappers = ctx.wrappers ∧
        (written.descriptions = ctx.descriptions ∨ written.descriptions = []) := by
    intro written chosen
    simp only [List.mem_cons, List.not_mem_nil, or_false] at chosen
    rcases chosen with rfl | rfl
    · rw [← context]
      exact ⟨rfl, rfl, .inr rfl⟩
    · exact ⟨rfl, rfl, .inl rfl⟩
  obtain ⟨raws, agains, read, read', related⟩ :=
    exists_corresponding sees plain.inline plain.reads rewritten
  have collected : List.Forall₂ (fun entry raw => readEntry before.document entry = .ok raw)
      (parameterEntries before.document path method) raws :=
    ((List.forall₂_and_left _ _).mpr ⟨plain.inline, read⟩).imp
      fun entry raw both => readEntry_of_inline both.1 both.2
  have collected' : List.Forall₂ (fun entry raw => readEntry after.document entry = .ok raw)
      (parameterEntries after.document path method) agains :=
    read'.imp fun entry raw both => readEntry_of_inline both.1 both.2
  exact ⟨_, _, collect_of_reads collected, collect_of_reads collected',
    kindOf_foldl_putParameter read plain.located, forall₂_corresponds_collected plain read related⟩

/-- Both descriptions have the same outcome of an operation, up to raw names. -/
theorem buildOperation_normalizeDocument (reads : Description.ofDocument? document = some before)
    (readsNormal : Description.ofDocument?
      (normalizeDocument document schema options.registry options.basePath).1 = some after)
    {operation : Operation} (member : operation.method ∈ iteratedMethods)
    (plain : PlainEntries (parameterEntries before.document operation.path operation.method)) :
    buildOperation after schema options operation =
      (buildOperation before schema options operation).rename Name.normalize := by
  obtain ⟨raws, agains, collected, collected', kind, related⟩ :=
    collect_normalizeDocument reads readsNormal member plain
  have base : (scopeOf document schema options.registry options.basePath).basePath =
      options.basePath.getD before.basePath := by
    rw [scopeOf, basePath_of_ofDocument? reads]
  rw [buildOperation, buildOperation, basePath_normalizeDocument reads readsNormal]
  by_cases isGet : operation.method = "get"
  · simp only [isGet, ne_eq, not_true_eq_false, if_false]
    cases serves : resource? operation.path (options.basePath.getD before.basePath) with
    | none => rfl
    | some resource =>
      have flattened (exchange : Exchange) (found : findExchange schema resource (kindOf raws) = .ok exchange) :
          flattenAll schema options.registry exchange.request agains =
            (flattenAll schema options.registry exchange.request raws).map (·.rename Name.normalize) := by
        have request := (request?_of_findExchange found).2
        have context : entryContext (scopeOf document schema options.registry options.basePath)
            operation.path (parameterEntries before.document operation.path operation.method) =
              ⟨options.registry, exchange.request.descriptions, schema.wrappers⟩ := by
          rw [entryContext, base, serves, Option.bind_some, ← kind]
          simp only [scopeOf, request]
          rfl
        rw [context] at related
        exact flattenAll_of_forall₂ related
      have built := buildEndpoint_rename Name.normalize schema options operation resource
        (keyCount_of_forall₂ related) flattened
      rw [isGet] at collected collected'
      simp only [collected, collected', built]
      cases buildEndpoint schema options operation resource raws <;> rfl
  · simp only [ne_eq, isGet, not_false_eq_true, if_true]
    rfl

/-- Building from a normal form gives the same diagnostics and the same endpoints in the same order,
with every raw name in delimited form. -/
theorem buildEndpoints_normalizeDocument (reads : Description.ofDocument? document = some before)
    (readsNormal : Description.ofDocument?
      (normalizeDocument document schema options.registry options.basePath).1 = some after)
    (plain : ∀ operation ∈ before.operations,
      PlainEntries (parameterEntries before.document operation.path operation.method)) :
    (buildEndpoints after schema options).diagnostics =
        (buildEndpoints before schema options).diagnostics ∧
      (buildEndpoints after schema options).endpoints =
        (buildEndpoints before schema options).endpoints.map (·.rename Name.normalize) := by
  have renamed : buildEndpoints after schema options =
      (buildEndpoints before schema options).rename Name.normalize := by
    apply buildEndpoints_rename
    rw [operations_normalizeDocument reads readsNormal, List.map_map]
    apply List.map_congr_left
    intro operation member
    exact buildOperation_normalizeDocument reads readsNormal (mem_iteratedMethods member)
      (plain operation member)
  rw [renamed]
  exact ⟨rfl, rfl⟩

end Normalized

/-- The entry in normal form. -/
def ownerNormalEntry : Document :=
  .obj [("description", .str "The owner (filter: eq)"), ("in", .str "query"), ("name", .str "owner_id_eq")]

def ownerNormalDescription : Description :=
  ⟨strip (ownerDocument ownerNormalEntry), isOpenApi_strip rfl (by cbv), by decide⟩

/-- The owner's List, which has an endpoint, read from both descriptions. -/
theorem buildEndpoints_ownerNormalDescription :
    (buildEndpoints ownerDescription ownerSchema ownerOptions).endpoints ≠ [] ∧
      (buildEndpoints ownerNormalDescription ownerSchema ownerOptions).diagnostics =
        (buildEndpoints ownerDescription ownerSchema ownerOptions).diagnostics ∧
      (buildEndpoints ownerNormalDescription ownerSchema ownerOptions).endpoints =
        (buildEndpoints ownerDescription ownerSchema ownerOptions).endpoints.map
          (·.rename Name.normalize) := by
  have reads : Description.ofDocument? (ownerDocument ownerEntry) = some ownerDescription :=
    dif_pos ⟨ownerDescription.conforms, ownerDescription.sorted⟩
  have normal : (normalizeDocument (ownerDocument ownerEntry) ownerSchema ownerOptions.registry
      ownerOptions.basePath).1 = ownerDocument ownerNormalEntry := rfl
  have readsNormal : Description.ofDocument? (normalizeDocument (ownerDocument ownerEntry) ownerSchema
      ownerOptions.registry ownerOptions.basePath).1 = some ownerNormalDescription := by
    rw [normal]
    exact dif_pos ⟨ownerNormalDescription.conforms, ownerNormalDescription.sorted⟩
  refine ⟨endpoints_owner_ne_nil, buildEndpoints_normalizeDocument reads readsNormal ?_⟩
  intro operation member
  obtain rfl : operation = ⟨"/items", "get", none⟩ := List.mem_singleton.mp member
  have entries : parameterEntries ownerDescription.document "/items" "get" = [ownerEntry] := rfl
  have read : RawParameter.ofDocument ownerEntry = .ok { name := "ownerId.eq", location := .query } := rfl
  simp only [entries]
  constructor
  · simp [ownerEntry, Document.get?, Keyed.get?]
  · simp only [List.mem_singleton, forall_eq]
    exact ⟨_, read, by simp [IsAscii]⟩
  · simp [ownerEntry, Document.textAt?, Document.get?, Keyed.get?, Document.text?]
  · simp only [List.mem_singleton, forall_eq, read]
    intro a b readA readB _ _
    rw [← Except.ok.inj readA, ← Except.ok.inj readB]

end QuerySynth
