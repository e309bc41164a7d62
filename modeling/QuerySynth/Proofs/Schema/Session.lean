import QuerySynth.Proofs.Schema.Loaded

/-! # Wrapper hints over a session

The models of compiled schemas are merged one after the other. A schema keeps the last message of each name and
the last wrapper kind that a request message gives a field name. The hints are only ever added to: a hint is
backed by a message of the schema when some request message that was not replaced still gives it. So all hints
are backed when messages are replaced only by messages with the same hints.
-/

namespace QuerySynth

/-- The wrapper kinds that a request message gives the names of its fields. -/
def Message.hints (message : Message) : List (String × WrapperKind) :=
  if message.isRequest then message.fields.filterMap fun field => field.wrapper.map (field.name, ·) else []

/-- The last one of some messages that has a name. -/
def lastNamed (messages : List Message) (name : String) : Option Message :=
  messages.reverse.find? (·.name == name)

/-- The last wrapper kind that some messages give a field name. -/
def lastHint (messages : List Message) (field : String) : Option WrapperKind :=
  Keyed.get? (messages.flatMap (·.hints)).reverse field

section Messages

variable {messages : List Message}

theorem lastNamed_append (earlier later : List Message) (name : String) :
    lastNamed (earlier ++ later) name = (lastNamed later name).or (lastNamed earlier name) := by
  rw [lastNamed, List.reverse_append, List.find?_append, lastNamed, lastNamed]

theorem lastHint_append (earlier later : List Message) (field : String) :
    lastHint (earlier ++ later) field = (lastHint later field).or (lastHint earlier field) := by
  rw [lastHint, List.flatMap_append, List.reverse_append, Keyed.get?_append, lastHint, lastHint]

theorem lastNamed_eq_some_iff {name : String} {message : Message} :
    lastNamed messages name = some message ↔
      message.name = name ∧
        ∃ earlier later, messages = earlier ++ message :: later ∧ ∀ other ∈ later, other.name ≠ name := by
  rw [lastNamed, List.find?_eq_some_iff_append]
  refine and_congr (by simp) ⟨?_, ?_⟩
  · rintro ⟨later, earlier, split, others⟩
    refine ⟨earlier.reverse, later.reverse, ?_, by simpa using others⟩
    rw [← List.reverse_reverse messages, split, List.reverse_append, List.reverse_cons, List.append_assoc]
    rfl
  · rintro ⟨earlier, later, rfl, others⟩
    exact ⟨later.reverse, earlier.reverse, by simp, by simpa using others⟩

theorem mem_of_lastNamed {name : String} {message : Message} (last : lastNamed messages name = some message) :
    message ∈ messages := by
  obtain ⟨-, earlier, later, rfl, -⟩ := lastNamed_eq_some_iff.mp last
  exact List.mem_append_right _ List.mem_cons_self

theorem exists_lastNamed {message : Message} (member : message ∈ messages) :
    ∃ last, lastNamed messages message.name = some last := by
  rw [← Option.isSome_iff_exists, lastNamed, List.find?_isSome]
  exact ⟨message, List.mem_reverse.mpr member, beq_self_eq_true _⟩

/-- Hints survive when a message is replaced only by messages that give them again. -/
theorem exists_lastNamed_of_pairwise
    (kept : messages.Pairwise fun earlier later => earlier.name = later.name → earlier.hints ⊆ later.hints)
    {message : Message} (member : message ∈ messages) :
    ∃ last, lastNamed messages last.name = some last ∧ message.hints ⊆ last.hints := by
  obtain ⟨last, found⟩ := exists_lastNamed member
  obtain ⟨named, earlier, later, rfl, others⟩ := lastNamed_eq_some_iff.mp found
  refine ⟨last, named ▸ found, ?_⟩
  rcases List.mem_append.mp member with before | inRest
  · exact (List.pairwise_append.mp kept).2.2 message before last List.mem_cons_self named.symm
  · rcases List.mem_cons.mp inRest with rfl | after
    · exact List.Subset.refl _
    · exact absurd rfl (others message after)

theorem exists_mem_of_lastHint {field : String} {kind : WrapperKind} (last : lastHint messages field = some kind) :
    ∃ message ∈ messages, (field, kind) ∈ message.hints := by
  simpa using Keyed.mem_of_get? last

theorem exists_lastHint {message : Message} (member : message ∈ messages) {field : String} {kind : WrapperKind}
    (given : (field, kind) ∈ message.hints) : ∃ last, lastHint messages field = some last := by
  refine Keyed.mem_keys_iff.mp (List.mem_map.mpr ⟨(field, kind), ?_, rfl⟩)
  exact List.mem_reverse.mpr (List.mem_flatMap.mpr ⟨message, member, given⟩)

theorem wrappersOf_eq_ofList (messages : List Message) :
    wrappersOf messages = Keyed.ofList (messages.flatMap (·.hints)) := by
  rw [wrappersOf]
  congr 1
  induction messages with
  | nil => rfl
  | cons message rest ih =>
    rw [List.flatMap_cons, Message.hints, List.filter_cons]
    cases message.isRequest
    · exact ih
    · exact congrArg (_ ++ ·) ih

end Messages

namespace Schema

/-- A request message of the schema has a field of a name with a wrapper kind. -/
def Declares (schema : Schema) (field : String) (kind : WrapperKind) : Prop :=
  ∃ name message, schema.message? name = some message ∧ (MethodKind.ofRequestName? name).isSome ∧
    ∃ entry ∈ message.fields, entry.name = field ∧ entry.wrapper = some kind

/-- The hints are those of the schema's request messages. -/
structure HintsBacked (schema : Schema) : Prop where
  has_iff : ∀ field, schema.wrappers.has field = true ↔ ∃ kind, schema.Declares field kind
  kind : ∀ field kind, schema.wrappers.get? field = some kind → schema.Declares field kind

/-- A schema has the last one of some messages under each name, and their last hint for each field name. -/
structure Records (schema : Schema) (messages : List Message) : Prop where
  message? : ∀ name, schema.message? name = lastNamed messages name
  wrapper? : ∀ field, schema.wrappers.get? field = lastHint messages field
  sortedMessages : schema.messages.Sorted
  sortedWrappers : schema.wrappers.Sorted

variable {schema later : Schema} {messages laterMessages : List Message}

theorem records_empty : empty.Records [] :=
  ⟨fun _ => rfl, fun _ => rfl, Keyed.sorted_nil, Keyed.sorted_nil⟩

theorem Records.merge (records : schema.Records messages) (laterRecords : later.Records laterMessages) :
    (schema.merge later).Records (messages ++ laterMessages) where
  message? name := by
    rw [lastNamed_append, ← records.message?, ← laterRecords.message?]
    exact Keyed.get?_insertAll_of_sorted laterRecords.sortedMessages _ _
  wrapper? field := by
    rw [lastHint_append, ← records.wrapper?, ← laterRecords.wrapper?]
    exact Keyed.get?_insertAll_of_sorted laterRecords.sortedWrappers _ _
  sortedMessages := Keyed.sorted_insertAll _ records.sortedMessages
  sortedWrappers := Keyed.sorted_insertAll _ records.sortedWrappers

/-- The last message of a name stands under it, so its hints are the schema's. -/
theorem Records.declares_iff (records : schema.Records messages) {field : String} {kind : WrapperKind} :
    schema.Declares field kind ↔
      ∃ message, lastNamed messages message.name = some message ∧ (field, kind) ∈ message.hints := by
  have given {message : Message} : (field, kind) ∈ message.hints ↔
      (MethodKind.ofRequestName? message.name).isSome ∧
        ∃ entry ∈ message.fields, entry.name = field ∧ entry.wrapper = some kind := by
    rw [Message.hints, Message.isRequest]
    split
    · rename_i request
      simp only [request, true_and, List.mem_filterMap, Option.map_eq_some_iff, Prod.mk.injEq]
      refine exists_congr fun entry => and_congr_right fun _ => ⟨?_, ?_⟩
      · rintro ⟨_, wrapped, named, rfl⟩
        exact ⟨named, wrapped⟩
      · rintro ⟨named, wrapped⟩
        exact ⟨kind, wrapped, named, rfl⟩
    · rename_i request
      simp [request]
  constructor
  · rintro ⟨name, message, found, declared⟩
    rw [records.message?] at found
    obtain ⟨rfl, -⟩ := lastNamed_eq_some_iff.mp found
    exact ⟨message, found, given.mpr declared⟩
  · rintro ⟨message, last, declared⟩
    exact ⟨message.name, message, (records.message? _).trans last, given.mp declared⟩

/-- What a request message of the schema declares has a hint. -/
theorem Records.has_of_declares (records : schema.Records messages) {field : String} {kind : WrapperKind}
    (declares : schema.Declares field kind) : schema.wrappers.has field = true := by
  obtain ⟨message, last, given⟩ := records.declares_iff.mp declares
  rw [Keyed.has, records.wrapper?, Option.isSome_iff_exists]
  exact exists_lastHint (mem_of_lastNamed last) given

theorem Records.backed_iff (records : schema.Records messages) :
    schema.HintsBacked ↔ ∀ field kind, lastHint messages field = some kind →
      ∃ message, lastNamed messages message.name = some message ∧ (field, kind) ∈ message.hints := by
  constructor
  · intro backed field kind last
    rw [← records.declares_iff]
    exact backed.kind field kind ((records.wrapper? field).trans last)
  · intro surviving
    have kind (field : String) (kind : WrapperKind) (found : schema.wrappers.get? field = some kind) :
        schema.Declares field kind := by
      rw [records.declares_iff]
      exact surviving field kind ((records.wrapper? field).symm.trans found)
    refine ⟨fun field => ⟨fun has => ?_, fun ⟨_, declares⟩ => records.has_of_declares declares⟩, kind⟩
    obtain ⟨hint, found⟩ := Option.isSome_iff_exists.mp has
    exact ⟨hint, kind field hint found⟩

end Schema

/-- The messages that the model of a compiled schema keeps, in the order of their definitions. -/
def Pool.modelled (pool : Pool) (options : SchemaOptions) : List Message :=
  if pool.services.isEmpty then []
  else (pool.messages.filter fun message =>
    message.file.package != wellKnownPackage && !message.declaration.isEntry).map
      (·.model options.registry (pool.option? options.groupOption))

theorem Pool.records_model (pool : Pool) (options : SchemaOptions) :
    (pool.model options).Records (pool.modelled options) := by
  rw [model, modelled]
  split
  · exact Schema.records_empty
  · refine ⟨fun name => ?_, fun field => ?_, Keyed.sorted_ofList _, Keyed.sorted_ofList _⟩
    · rw [Schema.message?, Keyed.get?_ofList, ← List.map_reverse, Keyed.get?_map_self]
      rfl
    · exact (congrArg (Keyed.get? · field) (wrappersOf_eq_ofList _)).trans (Keyed.get?_ofList _ field)

/-- A session begins with nothing; compiled schemas are modelled, and what two sessions have made is merged. -/
inductive Session where
  | nothing
  | compiled (pool : Pool) (options : SchemaOptions)
  | both (earlier later : Session)

namespace Session

def schema : Session → Schema
  | nothing => .empty
  | compiled pool options => pool.model options
  | both earlier later => earlier.schema.merge later.schema

def messages : Session → List Message
  | nothing => []
  | compiled pool options => pool.modelled options
  | both earlier later => earlier.messages ++ later.messages

theorem records (session : Session) : session.schema.Records session.messages := by
  induction session with
  | nothing => exact Schema.records_empty
  | compiled pool options => exact pool.records_model options
  | both earlier later earlierRecords laterRecords => exact earlierRecords.merge laterRecords

/-- In every session, what a request message declares has a hint. The hints are backed exactly when, for each
field name, the last hint is one of a message that was not replaced; so they are when messages are replaced
only by messages that give their hints again. -/
theorem hintsBacked_iff (session : Session) :
    (∀ field kind, session.schema.Declares field kind → session.schema.wrappers.has field = true) ∧
    (session.schema.HintsBacked ↔ ∀ field kind, lastHint session.messages field = some kind →
      ∃ message, lastNamed session.messages message.name = some message ∧ (field, kind) ∈ message.hints) ∧
    ((session.messages.Pairwise fun earlier later =>
        earlier.name = later.name → earlier.hints ⊆ later.hints) → session.schema.HintsBacked) := by
  refine ⟨fun _ _ => session.records.has_of_declares, session.records.backed_iff, fun kept => ?_⟩
  rw [session.records.backed_iff]
  intro field kind last
  obtain ⟨message, member, given⟩ := exists_mem_of_lastHint last
  obtain ⟨surviving, isLast, covers⟩ := exists_lastNamed_of_pairwise kept member
  exact ⟨surviving, isLast, covers given⟩

def wrapperFile : List UInt8 :=
  Wire.part 1 (Wire.part 1 (textBytes "w") ++ Wire.part 2 (textBytes "google.protobuf") ++
    Wire.part 4 (Wire.part 1 (textBytes "UInt32Value")))

/-- The compiled file of a package with a service and the request message of its items. -/
def requestFile (package : String) (fields : List UInt8) : List UInt8 :=
  Wire.part 1 (Wire.part 1 (textBytes package) ++ Wire.part 2 (textBytes package) ++ Wire.part 3 (textBytes "w") ++
    Wire.part 4 (Wire.part 1 (textBytes "ListItemsRequest") ++ fields) ++ Wire.part 6 (Wire.part 1 (textBytes "Items")))

def epochField : List UInt8 :=
  Wire.part 2 (Wire.part 1 (textBytes "epoch") ++ [24, 1, 32, 1, 40, 11] ++
    Wire.part 6 (textBytes ".google.protobuf.UInt32Value"))

/-- The request message is read again with its field, so the hint is backed. -/
theorem hintsBacked_epoch :
    ∃ pool, Pool.ofBytes? (wrapperFile ++ requestFile "a" epochField) = some pool ∧
      let session := both (compiled pool ⟨.standard, "group"⟩) (compiled pool ⟨.standard, "group"⟩)
      session.schema.wrappers = [("epoch", .uint32)] ∧ session.schema.HintsBacked := by
  have read : (Pool.ofBytes? (wrapperFile ++ requestFile "a" epochField)).map (fun pool =>
      let session := both (compiled pool ⟨.standard, "group"⟩) (compiled pool ⟨.standard, "group"⟩)
      decide (session.schema.wrappers = [("epoch", .uint32)] ∧ session.messages.Pairwise fun earlier later =>
        earlier.name = later.name → earlier.hints ⊆ later.hints)) = some true := by decide +kernel
  obtain ⟨pool, decoded, facts⟩ := Option.map_eq_some_iff.mp read
  obtain ⟨wrappers, kept⟩ := of_decide_eq_true facts
  exact ⟨pool, decoded, wrappers, (hintsBacked_iff _).2.2 kept⟩

/-- A message without fields takes the name of a request message: no message has the field of the hint. -/
theorem not_hintsBacked_epoch :
    ∃ pool, Pool.ofBytes? (wrapperFile ++ requestFile "a" epochField ++ requestFile "b" []) = some pool ∧
      ¬ (compiled pool ⟨.standard, "group"⟩).schema.HintsBacked := by
  have read : (Pool.ofBytes? (wrapperFile ++ requestFile "a" epochField ++ requestFile "b" [])).map (fun pool =>
      let schema := pool.model ⟨.standard, "group"⟩
      schema.wrappers.has "epoch" && schema.messages.all (·.2.fields.isEmpty)) = some true := by decide +kernel
  obtain ⟨pool, decoded, facts⟩ := Option.map_eq_some_iff.mp read
  obtain ⟨has, empty⟩ := Bool.and_eq_true_iff.mp facts
  refine ⟨pool, decoded, fun backed => ?_⟩
  obtain ⟨kind, name, message, found, -, entry, member, -⟩ := (backed.has_iff "epoch").mp has
  rw [List.isEmpty_iff.mp (List.all_eq_true.mp empty _ (Keyed.mem_of_get? found))] at member
  exact List.not_mem_nil member

end Session

end QuerySynth
