import QuerySynth.Proofs.Schema.Merge
import QuerySynth.Proofs.Schema.Named

/-! # Schemas from compiled files

Compiled files define no name twice, so the model of a pool is well-formed, and so is every model that is read
from a file. The schema of a directory is the product of those of its files: the laws of merging say that it
does not matter how the files are grouped.
-/

namespace QuerySynth

/-- A definition is added under a new name, or a package is named again. -/
theorem Definitions.add?_eq_some {definitions next : Definitions} {name : String} {definition : Definition}
    (added : definitions.add? name definition = some next) :
    (Keyed.get? definitions name = none ∧ next = Keyed.insert name definition definitions) ∨
      (definition.meaning = .package ∧ next = definitions) := by
  rw [add?] at added
  split at added
  · rename_i fresh
    exact .inl ⟨fresh, (Option.some.inj added).symm⟩
  · split at added
    · rename_i packages
      exact .inr ⟨packages.2, (Option.some.inj added).symm⟩
    · cases added

/-- In definitions that can be added one after the other, no name but those of packages comes twice or was
known before. -/
theorem Definitions.nodup_of_foldlM_add? {entries : List (String × Definition)} {start result : Definitions}
    (made : entries.foldlM (fun definitions (name, definition) => definitions.add? name definition) start =
      some result) :
    (∀ entry ∈ entries, entry.2.meaning ≠ .package → Keyed.get? start entry.1 = none) ∧
      ((entries.filter (·.2.meaning ≠ .package)).map (·.1)).Nodup := by
  induction entries generalizing start with
  | nil => simp
  | cons head rest ih =>
    obtain ⟨name, definition⟩ := head
    rw [List.foldlM_cons] at made
    obtain ⟨next, added, made⟩ := Option.bind_eq_some_iff.mp made
    obtain ⟨fresh, nodup⟩ := ih made
    rcases add?_eq_some added with ⟨absent, rfl⟩ | ⟨package, rfl⟩
    · have apart : ∀ entry ∈ rest, entry.2.meaning ≠ .package →
          entry.1 ≠ name ∧ Keyed.get? start entry.1 = none := by
        intro entry member noPackage
        have free := fresh entry member noPackage
        have different : entry.1 ≠ name := by
          intro same
          rw [same, Keyed.get?_insert_self] at free
          cases free
        exact ⟨different, by rwa [Keyed.get?_insert_of_ne different] at free⟩
      refine ⟨List.forall_mem_cons.mpr ⟨fun _ => absent, fun entry member noPackage =>
        (apart entry member noPackage).2⟩, ?_⟩
      rw [List.filter_cons]
      split
      · rw [List.map_cons, List.nodup_cons]
        refine ⟨fun again => ?_, nodup⟩
        obtain ⟨entry, chosen, same⟩ := List.mem_map.mp again
        obtain ⟨member, noPackage⟩ := List.mem_filter.mp chosen
        exact (apart entry member (of_decide_eq_true noPackage)).1 same
      · exact nodup
    · refine ⟨List.forall_mem_cons.mpr ⟨fun noPackage => absurd package noPackage, fresh⟩, ?_⟩
      rwa [List.filter_cons_of_neg (by simpa using package)]

def FileDeclaration.serviceNames (file : FileDeclaration) : List String :=
  file.services.map fun service => fullNameIn file.package service.name

/-- The services of a file are among its definitions. -/
theorem FileDeclaration.sublist_definitions (file : FileDeclaration) :
    (file.serviceNames.map (·, Meaning.member)).Sublist file.definitions := by
  have each : (file.serviceNames.map (·, Meaning.member)).Sublist
      (file.services.flatMap (·.definitions file.package)) := by
    rw [serviceNames, List.map_map]
    induction file.services with
    | nil => exact List.Sublist.slnil
    | cons service rest ih =>
      rw [List.map_cons, List.flatMap_cons, ServiceDeclaration.definitions, List.cons_append]
      exact .cons_cons _ (ih.trans (List.sublist_append_right _ _))
  rw [definitions]
  exact (each.trans (List.sublist_append_right _ _)).trans (List.sublist_append_left _ _)

theorem nodup_serviceNames {files : List FileDeclaration} {definitions : Definitions}
    (made : Definitions.ofFiles? files = some definitions) : (files.flatMap (·.serviceNames)).Nodup := by
  have nodup := (Definitions.nodup_of_foldlM_add? made).2
  refine nodup.sublist ?_
  have listed : ((files.flatMap fun file => file.serviceNames.map fun name =>
      (name, Definition.mk file.name .member)).filter (·.2.meaning ≠ .package)).map (·.1) =
        files.flatMap (·.serviceNames) := by
    rw [List.filter_eq_self.mpr]
    · simp [List.map_flatMap, Function.comp_def]
    · intro entry member
      obtain ⟨file, -, inFile⟩ := List.mem_flatMap.mp member
      obtain ⟨name, -, rfl⟩ := List.mem_map.mp inFile
      rfl
  rw [← listed]
  refine List.Sublist.map _ (List.Sublist.filter _ ?_)
  clear made nodup listed
  induction files with
  | nil => exact List.Sublist.slnil
  | cons file rest ih =>
    rw [List.flatMap_cons, List.flatMap_cons]
    refine List.Sublist.append ?_ ih
    have inside := file.sublist_definitions.map fun entry => (entry.1, Definition.mk file.name entry.2)
    rwa [List.map_map] at inside

/-- A resolved service has its full name. -/
theorem ServiceDeclaration.fullName_of_resolve? {service : ServiceDeclaration} {view : View} {scope : String}
    {resolved : ResolvedService} (made : service.resolve? view scope = some resolved) :
    resolved.fullName = fullNameIn scope service.name := by
  obtain ⟨methods, -, made⟩ := Option.bind_eq_some_iff.mp made
  obtain rfl := Option.some.inj made
  rfl

theorem FileDeclaration.services_of_resolve? {file : FileDeclaration} {files : Keyed FileDeclaration}
    {definitions : Definitions} {pool : Pool} (made : file.resolve? files definitions = some pool) :
    pool.services.map (·.fullName) = file.serviceNames := by
  obtain ⟨-, -, made⟩ := Option.bind_eq_some_iff.mp made
  obtain ⟨inner, -, made⟩ := Option.bind_eq_some_iff.mp made
  obtain ⟨messages, -, made⟩ := Option.bind_eq_some_iff.mp made
  obtain ⟨services, resolved, made⟩ := Option.bind_eq_some_iff.mp made
  obtain ⟨options, -, made⟩ := Option.bind_eq_some_iff.mp made
  obtain rfl := Option.some.inj made
  exact map_eq_of_forall₂ ((forall₂_of_mapM_eq_some resolved).imp fun _ _ => ServiceDeclaration.fullName_of_resolve?)

/-- Different services of compiled files have different full names. -/
theorem Pool.nodup_of_ofFiles? {files : List FileDeclaration} {pool : Pool}
    (made : Pool.ofFiles? files = some pool) : (pool.services.map (·.fullName)).Nodup := by
  obtain ⟨-, -, made⟩ := Option.bind_eq_some_iff.mp made
  obtain ⟨definitions, defined, made⟩ := Option.bind_eq_some_iff.mp made
  obtain ⟨pools, resolved, made⟩ := Option.bind_eq_some_iff.mp made
  obtain rfl := Option.some.inj made
  have names : pools.map (fun pool => pool.services.map (·.fullName)) = files.map (·.serviceNames) :=
    map_eq_of_forall₂ ((forall₂_of_mapM_eq_some resolved).imp fun _ _ => FileDeclaration.services_of_resolve?)
  rw [List.map_flatMap, List.flatMap_def, names, ← List.flatMap_def]
  exact nodup_serviceNames defined

theorem Pool.wellFormed_model {pool : Pool} (distinct : (pool.services.map (·.fullName)).Nodup)
    (options : SchemaOptions) : (pool.model options).WellFormed := by
  rw [model]
  split
  · exact Schema.wellFormed_empty
  · refine ⟨Schema.inOrder_sortServices _, ?_, Keyed.sorted_ofList _, Keyed.sorted_ofList _⟩
    rw [((Schema.perm_sortServices _).map _).nodup_iff, List.map_map]
    exact distinct

/-- A model that is read from bytes is well-formed. -/
theorem Schema.wellFormed_of_ofBytes? {bytes : List UInt8} {options : SchemaOptions} {schema : Schema}
    (read : Schema.ofBytes? bytes options = some schema) : schema.WellFormed := by
  obtain ⟨pool, decoded, rfl⟩ := Option.map_eq_some_iff.mp read
  obtain ⟨files, -, made⟩ := Option.bind_eq_some_iff.mp decoded
  exact Pool.wellFormed_model (Pool.nodup_of_ofFiles? made) options

namespace Storage

variable {storage : Storage} {options : SchemaOptions}

theorem wellFormed_of_loadSchemaFile {path : Path} {schema : Schema}
    (loaded : storage.loadSchemaFile options path = .ok schema) : schema.WellFormed := by
  obtain ⟨bytes, -, decoded⟩ := exists_bytes_of_loadSchemaFile loaded
  exact Schema.wellFormed_of_ofBytes? decoded

def loadTogether (storage : Storage) (options : SchemaOptions) (files : List Path) : Except SchemaFault Schema :=
  (files.mapM (storage.loadSchemaFile options)).map Schema.mergeAll

/-- Files can be loaded group by group. -/
theorem loadTogether_flatten (groups : List (List Path)) :
    storage.loadTogether options groups.flatten =
      (groups.mapM (storage.loadTogether options)).map Schema.mergeAll := by
  have grouped := mapM_map_eq (List.mapM (storage.loadSchemaFile options)) Schema.mergeAll groups
  change groups.mapM (storage.loadTogether options) = _ at grouped
  rw [loadTogether, mapM_flatten, grouped]
  cases loaded : groups.mapM (List.mapM (storage.loadSchemaFile options)) with
  | error fault => rfl
  | ok models =>
    refine congrArg Except.ok (Schema.mergeAll_flatten ?_)
    intro models' inGroups schema inGroup
    obtain ⟨files, -, read⟩ := exists_left_of_mem (forall₂_of_mapM loaded) inGroups
    obtain ⟨file, -, made⟩ := exists_left_of_mem (forall₂_of_mapM read) inGroup
    exact wellFormed_of_loadSchemaFile made

/-- The schema of a directory is that of its compiled files together. -/
theorem loadSchema_directory {path : Path} {paths : List Path} (directory : storage.isDirectory path = true)
    (listed : storage.list path = .ok paths) :
    storage.loadSchema options path = storage.loadTogether options (paths.filter storage.isSchemaFile) := by
  rw [loadSchema, if_pos directory, listed, loadTogether]
  dsimp only
  cases List.mapM (storage.loadSchemaFile options) (paths.filter storage.isSchemaFile) <;> rfl

end Storage

/-- Well-formed models are a monoid under merging, with the empty model as the unit, in which every model is
idempotent. So the schema of a directory does not depend on how its compiled files are grouped. -/
theorem Schema.merge_monoid :
    empty.WellFormed ∧
    (∀ first second : Schema, first.WellFormed → second.WellFormed → (first.merge second).WellFormed) ∧
    (∀ first second third : Schema, first.WellFormed → second.WellFormed → third.WellFormed →
      (first.merge second).merge third = first.merge (second.merge third)) ∧
    (∀ schema : Schema, schema.WellFormed →
      empty.merge schema = schema ∧ schema.merge empty = schema ∧ schema.merge schema = schema) ∧
    (∀ (storage : Storage) (options : SchemaOptions) (path : Path) (paths : List Path) (groups : List (List Path)),
      storage.isDirectory path = true → storage.list path = .ok paths →
      groups.flatten = paths.filter storage.isSchemaFile →
      storage.loadSchema options path = (groups.mapM (storage.loadTogether options)).map mergeAll) := by
  refine ⟨wellFormed_empty, fun _ _ => WellFormed.merge, fun _ _ _ => merge_assoc, fun schema wellFormed => ?_, ?_⟩
  · exact ⟨empty_merge wellFormed, merge_empty wellFormed, merge_self wellFormed⟩
  · intro storage options path paths groups directory listed grouped
    rw [Storage.loadSchema_directory directory listed, ← grouped, Storage.loadTogether_flatten]

/-- A length-delimited field with some content. -/
def Wire.part (number : Nat) (content : List UInt8) : List UInt8 :=
  UInt8.ofNat (8 * number + 2) :: UInt8.ofNat content.length :: content

/-- A compiled file of a package with a service, whose methods all take and return one message. -/
def compiledItems (package : String) (methods : List String) : List UInt8 :=
  let text (number : Nat) (text : String) : List UInt8 := Wire.part number (textBytes text)
  Wire.part 1 (text 1 package ++ text 2 package ++ Wire.part 4 (text 1 "Item") ++
    Wire.part 6 (text 1 "Items" ++ methods.flatMap fun method =>
      Wire.part 2 (text 1 method ++ text 2 "Item" ++ text 3 "Item")))

/-- A directory with the services of two packages under one name, and with the first of them once more. -/
def itemStorage : Storage :=
  ((((Storage.ofHome ["work"]).plant ["work", "pb", "a.pb"] (.file (compiledItems "a" ["List"]))).plant
    ["work", "pb", "b.pb"] (.file (compiledItems "b" ["Get"]))).plant
    ["work", "pb", "c.pb"] (.file (compiledItems "a" ["Get", "List"])))

def itemModel (package : String) (methods : List Method) : Schema where
  services := [⟨"Items", package ++ ".Items", methods⟩]
  messages := [("Item", ⟨"Item", package ++ ".Item", []⟩)]

/-- Two services of one name and a later definition of the first: the models are merged in either grouping, and
the directory with them is loaded. -/
theorem Schema.merge_monoid_items :
    (itemModel "a" []).WellFormed ∧ (itemModel "b" []).WellFormed ∧
    ((itemModel "a" []).merge (itemModel "b" [])).merge (itemModel "a" [⟨"Get", .get, "Item", "Item"⟩]) =
      (itemModel "a" []).merge ((itemModel "b" []).merge (itemModel "a" [⟨"Get", .get, "Item", "Item"⟩])) ∧
    itemStorage.isDirectory ⟨"pb"⟩ = true ∧
    itemStorage.list ⟨"pb"⟩ = .ok [⟨"pb/a.pb"⟩, ⟨"pb/b.pb"⟩, ⟨"pb/c.pb"⟩] ∧
    itemStorage.loadSchema ⟨.standard, "group"⟩ ⟨"pb"⟩ =
      ([[⟨"pb/a.pb"⟩], [⟨"pb/b.pb"⟩, ⟨"pb/c.pb"⟩]].mapM (itemStorage.loadTogether ⟨.standard, "group"⟩)).map mergeAll ∧
    (itemStorage.loadSchema ⟨.standard, "group"⟩ ⟨"pb"⟩).isOk = true := by
  obtain ⟨-, -, associative, -, loading⟩ := merge_monoid
  have listed : itemStorage.list ⟨"pb"⟩ = .ok [⟨"pb/a.pb"⟩, ⟨"pb/b.pb"⟩, ⟨"pb/c.pb"⟩] := by decide +kernel
  have directory : itemStorage.isDirectory ⟨"pb"⟩ = true := by decide +kernel
  have first : (itemModel "a" []).WellFormed := by decide +kernel
  have second : (itemModel "b" []).WellFormed := by decide +kernel
  refine ⟨first, second, associative _ _ _ first second (by decide +kernel), directory, listed, ?_, by decide +kernel⟩
  exact loading itemStorage ⟨.standard, "group"⟩ ⟨"pb"⟩ _ _ directory listed (by decide +kernel)

end QuerySynth
