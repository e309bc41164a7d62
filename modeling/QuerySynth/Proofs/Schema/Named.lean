import QuerySynth.Proofs.Except
import QuerySynth.Proofs.Keyed
import QuerySynth.Schema.Source

/-! # Messages under their own names

A schema model keeps its messages by their short names. Every schema that is loaded does so: it is made
of compiled files, and merging keeps the names.
-/

namespace QuerySynth

/-- Every message is stored under its own name. -/
def Schema.Named (schema : Schema) : Prop :=
  ∀ entry ∈ schema.messages, entry.2.name = entry.1

/-- A name under which a message of this name is stored. -/
def Schema.Keeps (schema : Schema) (name : String) : Prop :=
  ∃ message, schema.message? name = some message ∧ message.name = name

namespace Schema

variable {schema later : Schema}

theorem Named.name_of_message? (named : schema.Named) {name : String} {message : Message}
    (found : schema.message? name = some message) : message.name = name :=
  named _ (Keyed.mem_of_get? found)

theorem Named.keeps (named : schema.Named) {name : String} (present : (schema.message? name).isSome) :
    schema.Keeps name := by
  obtain ⟨message, found⟩ := Option.isSome_iff_exists.mp present
  exact ⟨message, found, named.name_of_message? found⟩

theorem named_empty : Named empty := by
  intro entry member
  exact absurd member List.not_mem_nil

theorem Named.merge (named : schema.Named) (laterNamed : later.Named) : (schema.merge later).Named := by
  intro entry member
  rcases Keyed.mem_insertAll member with new | old
  · exact laterNamed entry new
  · exact named entry old

theorem Named.foldl_merge (named : schema.Named) {schemas : List Schema}
    (each : ∀ later ∈ schemas, later.Named) : (schemas.foldl Schema.merge schema).Named := by
  induction schemas generalizing schema with
  | nil => exact named
  | cons later rest ih =>
    apply ih (named.merge (each later List.mem_cons_self))
    intro other member
    exact each other (List.mem_cons_of_mem _ member)

end Schema

theorem Pool.named_model (pool : Pool) (options : SchemaOptions) : (pool.model options).Named := by
  rw [Pool.model]
  split
  · exact Schema.named_empty
  · intro entry member
    obtain ⟨message, -, rfl⟩ := List.mem_map.mp (Keyed.mem_of_mem_ofList member)
    rfl

namespace Storage

variable {storage : Storage} {options : SchemaOptions} {path : Path} {schema : Schema}

/-- A schema that was loaded from a file is that of the file's bytes. -/
theorem exists_bytes_of_loadSchemaFile (loaded : storage.loadSchemaFile options path = .ok schema) :
    ∃ bytes, storage.read path = .ok bytes ∧ Schema.ofBytes? bytes options = some schema := by
  rw [loadSchemaFile] at loaded
  split at loaded
  · cases loaded
  · rename_i bytes read
    split at loaded
    · rename_i decoded
      obtain rfl := Except.ok.inj loaded
      exact ⟨bytes, read, decoded⟩
    · cases loaded

theorem named_of_loadSchemaFile (loaded : storage.loadSchemaFile options path = .ok schema) :
    schema.Named := by
  obtain ⟨bytes, -, decoded⟩ := exists_bytes_of_loadSchemaFile loaded
  obtain ⟨pool, -, rfl⟩ := Option.map_eq_some_iff.mp decoded
  exact pool.named_model options

/-- A schema that was loaded keeps its messages under their own names. -/
theorem named_of_loadSchema (loaded : storage.loadSchema options path = .ok schema) : schema.Named := by
  rw [loadSchema] at loaded
  split at loaded
  · split at loaded
    · simp at loaded
    · obtain ⟨schemas, read, rest⟩ := bind_eq_ok_iff.mp loaded
      obtain rfl := Except.ok.inj rest
      apply Schema.named_empty.foldl_merge
      intro later member
      obtain ⟨file, -, made⟩ := exists_left_of_mem (forall₂_of_mapM read) member
      exact named_of_loadSchemaFile made
  · exact named_of_loadSchemaFile loaded

end Storage

end QuerySynth
