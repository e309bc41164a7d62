import QuerySynth.Proofs.Except
import QuerySynth.Proofs.Rest.Collect

/-! # Which entries an operation takes its parameters from

Of several entries for one name and location the last one counts, at its own position, so the entries of
an operation override those of its path item. An entry that stands for no parameter is reported in its
turn and has no other effect. How the members of a parameter object are read is not spoken of here.
-/

namespace QuerySynth.Rest

/-- The items that are followed by no other item of their key. -/
def lastOfEach {α κ : Type} [DecidableEq κ] (key : α → κ) : List α → List α
  | [] => []
  | item :: rest => if key item ∈ rest.map key then lastOfEach key rest else item :: lastOfEach key rest

theorem putParameter_eq (collected : List RawParameter) (raw : RawParameter) :
    putParameter collected raw = collected.filter (fun old => placeOf old ≠ placeOf raw) ++ [raw] := by
  rw [putParameter]
  congr 1
  apply List.filter_congr
  intro old _
  rw [Bool.eq_iff_iff]
  simp [placeOf]

/-- Putting parameters keeps the last of each place, and of the earlier ones those whose places stay free. -/
theorem foldl_putParameter (raws collected : List RawParameter) :
    raws.foldl putParameter collected =
      collected.filter (fun old => placeOf old ∉ raws.map placeOf) ++ lastOfEach placeOf raws := by
  induction raws generalizing collected with
  | nil => simp [lastOfEach]
  | cons raw rest ih =>
    have earlier : (collected.filter fun old => placeOf old ≠ placeOf raw).filter
          (fun old => placeOf old ∉ rest.map placeOf) =
        collected.filter (fun old => placeOf old ∉ (raw :: rest).map placeOf) := by
      rw [List.filter_filter]
      apply List.filter_congr
      intro old _
      rw [Bool.eq_iff_iff]
      simp [and_comm]
    have last : [raw].filter (fun old => placeOf old ∉ rest.map placeOf) ++ lastOfEach placeOf rest =
        lastOfEach placeOf (raw :: rest) := by
      rw [lastOfEach, List.filter_singleton]
      by_cases overridden : placeOf raw ∈ rest.map placeOf <;> simp [overridden]
    rw [List.foldl_cons, ih, putParameter_eq, List.filter_append, earlier, List.append_assoc, last]

theorem foldl_putParameter_nil (raws : List RawParameter) :
    raws.foldl putParameter [] = lastOfEach placeOf raws := by
  rw [foldl_putParameter, List.filter_nil, List.nil_append]

/-- What an entry stands for: what its reference leads to, or the entry itself. -/
def target? (document entry : Document) : Option Document :=
  match entry.textAt? "$ref" with
  | some reference => document.resolve? reference
  | none => some entry

/-- The parameter that an entry stands for. -/
def parameter? (document entry : Document) : Option RawParameter :=
  (target? document entry).bind fun found => (RawParameter.ofDocument found).toOption

/-- Why an entry stands for no parameter, in words. -/
inductive Refusal (document entry : Document) : String → Prop where
  | dead {reference : String} (refers : entry.textAt? "$ref" = some reference)
      (nowhere : document.resolve? reference = none) :
      Refusal document entry ("parameter reference '" ++ reference ++ "' does not resolve")
  | malformed {found : Document} {fault : ParameterFault} (stands : target? document entry = some found)
      (unreadable : RawParameter.ofDocument found = .error fault) :
      Refusal document entry ("malformed parameter object: " ++ fault.message)

/-- The warning that an entry is left out. -/
def Reports (document : Document) (place : String) (entry : Document) (report : Diagnostic) : Prop :=
  ∃ words, Refusal document entry words ∧ report = ⟨place, .warning, .unresolvedReference, words⟩

section Entry

variable {document entry : Document}

theorem readEntry_of_target? {found : Document} (stands : target? document entry = some found) :
    readEntry document entry = (RawParameter.ofDocument found).mapError Finding.malformedParameter := by
  rw [target?] at stands
  rw [readEntry]
  cases refers : entry.textAt? "$ref" with
  | none =>
    obtain rfl : entry = found := by simpa [refers] using stands
    dsimp only
    cases RawParameter.ofDocument entry <;> rfl
  | some reference =>
    rw [refers] at stands
    simp only [stands]
    cases RawParameter.ofDocument found <;> rfl

/-- Only a reference can stand for nothing. -/
theorem readEntry_of_dead (dead : target? document entry = none) :
    ∃ reference, entry.textAt? "$ref" = some reference ∧ document.resolve? reference = none ∧
      readEntry document entry = .error (.deadReference reference) := by
  rw [target?] at dead
  rw [readEntry]
  cases refers : entry.textAt? "$ref" with
  | none => simp [refers] at dead
  | some reference =>
    rw [refers] at dead
    exact ⟨reference, rfl, dead, by simp only [dead]⟩

theorem toOption_readEntry : (readEntry document entry).toOption = parameter? document entry := by
  rw [parameter?]
  cases stands : target? document entry with
  | none =>
    obtain ⟨reference, -, -, refused⟩ := readEntry_of_dead stands
    rw [refused]
    rfl
  | some found =>
    rw [readEntry_of_target? stands, Option.bind_some]
    cases RawParameter.ofDocument found <;> rfl

theorem reports_of_readEntry {finding : Finding} (refused : readEntry document entry = .error finding)
    (place : String) : Reports document place entry (finding.report place) := by
  cases stands : target? document entry with
  | none =>
    obtain ⟨reference, refers, nowhere, dead⟩ := readEntry_of_dead stands
    obtain rfl := Except.error.inj (dead.symm.trans refused)
    exact ⟨_, .dead refers nowhere, rfl⟩
  | some found =>
    rw [readEntry_of_target? stands] at refused
    cases unreadable : RawParameter.ofDocument found with
    | ok raw => simp [unreadable, Except.mapError] at refused
    | error fault =>
      rw [unreadable] at refused
      obtain rfl := Except.error.inj refused
      exact ⟨_, .malformed stands unreadable, rfl⟩

end Entry

/-- The entries that cannot be read, with what is found there. -/
private theorem forall₂_collect_step (document : Document) (entries : List Document)
    (state : List RawParameter × List Finding) :
    ∃ findings, (entries.foldl
        (fun (collected, findings) entry =>
          match readEntry document entry with
          | .ok raw => (putParameter collected raw, findings)
          | .error finding => (collected, findings ++ [finding])) state).2 = state.2 ++ findings ∧
      List.Forall₂ (fun entry finding => readEntry document entry = .error finding)
        (entries.filter fun entry => (parameter? document entry).isNone) findings := by
  induction entries generalizing state with
  | nil => exact ⟨[], (List.append_nil _).symm, .nil⟩
  | cons entry rest ih =>
    rw [List.foldl_cons, List.filter_cons, ← toOption_readEntry]
    cases read : readEntry document entry with
    | ok raw => exact ih (putParameter state.1 raw, state.2)
    | error finding =>
      obtain ⟨findings, run, later⟩ := ih (state.1, state.2 ++ [finding])
      refine ⟨finding :: findings, ?_, .cons read later⟩
      rw [run, List.append_assoc, List.singleton_append]

theorem forall₂_snd_collect (document : Document) (path method : String) :
    List.Forall₂ (fun entry finding => readEntry document entry = .error finding)
      ((parameterEntries document path method).filter fun entry => (parameter? document entry).isNone)
      (collect document path method).2 := by
  obtain ⟨findings, run, related⟩ :=
    forall₂_collect_step document (parameterEntries document path method) ([], [])
  have same : (collect document path method).2 = findings := run
  rwa [same]

/-- What the entries of a path item and of an operation come to. -/
structure Overrides (document : Document) (place : String) (shared own : List Document)
    (params : List RawParameter) (reports : List Diagnostic) : Prop where
  /-- Every parameter counts that no later one of its name and location follows. -/
  last : params = lastOfEach placeOf ((shared ++ own).filterMap (parameter? document))
  /-- Those of the operation override those of the path item and come after the others. -/
  levels : params =
    (lastOfEach placeOf (shared.filterMap (parameter? document))).filter
        (fun raw => placeOf raw ∉ (own.filterMap (parameter? document)).map placeOf) ++
      lastOfEach placeOf (own.filterMap (parameter? document))
  distinct : (params.map placeOf).Nodup
  /-- Every other entry has one warning, in the order of the entries. -/
  reported : List.Forall₂ (Reports document place)
    ((shared ++ own).filter fun entry => (parameter? document entry).isNone) reports

/-- An operation collects the last parameter of each name and location, and reports the entries that
stand for none. -/
theorem overrides_collect (document : Document) (path method place : String) :
    Overrides document place (entriesOf ((document.get? "paths").bind (·.get? path)))
      (entriesOf (((document.get? "paths").bind (·.get? path)).bind (·.get? method)))
      (collect document path method).1 ((collect document path method).2.map (·.report place)) where
  last := by
    rw [fst_collect, foldl_putParameter_nil, parameterEntries]
    simp only [toOption_readEntry]
  levels := by
    rw [fst_collect, parameterEntries]
    simp only [toOption_readEntry, List.filterMap_append, List.foldl_append]
    rw [foldl_putParameter_nil, foldl_putParameter]
  distinct := nodup_collect document path method
  reported := by
    rw [List.forall₂_map_right_iff]
    refine (forall₂_snd_collect document path method).imp ?_
    intro entry finding refused
    exact reports_of_readEntry refused place

/-- An entry of the path item that the operation overrides through a reference, before one that leads
nowhere. -/
def overridingDocument : Document :=
  .obj [("components", .obj [("parameters", .obj [("Owner", .obj [("description", .str "The owner"),
      ("in", .str "query"), ("name", .str "owner_id")])])]),
    ("paths", .obj [("/items", .obj [
      ("get", .obj [("parameters", .arr [.obj [("$ref", .str "#/components/parameters/Owner")],
        .obj [("$ref", .str "#/components/parameters/Nobody")]])]),
      ("parameters", .arr [.obj [("in", .str "query"), ("name", .str "owner_id"),
        ("required", .bool true)]])])])]

/-- Of the two parameters for the owner the one that is referred to is left, and there is one warning. -/
theorem overrides_overriding :
    ∃ shared own, Overrides overridingDocument "GET /items" shared own
        (collect overridingDocument "/items" "get").1
        ((collect overridingDocument "/items" "get").2.map (·.report "GET /items")) ∧
      ((shared ++ own).filterMap (parameter? overridingDocument)).map (fun raw => (raw.name, raw.required)) =
        [("owner_id", true), ("owner_id", false)] ∧
      (collect overridingDocument "/items" "get").1.map (fun raw => (raw.name, raw.description)) =
        [("owner_id", some "The owner")] ∧
      (collect overridingDocument "/items" "get").2.map (·.report "GET /items") =
        [⟨"GET /items", .warning, .unresolvedReference,
          "parameter reference '#/components/parameters/Nobody' does not resolve"⟩] :=
  ⟨_, _, overrides_collect overridingDocument "/items" "get" "GET /items", by decide +kernel,
    by decide +kernel, by decide +kernel⟩

end QuerySynth.Rest
