import QuerySynth.Proofs.Endpoint.Fate

/-! # What findings are about

The kind of a finding tells which stage of building made it, and all but the note on a method are
warnings. So the reports of one stage can be told from the reports of the others at the same place.
-/

namespace QuerySynth

theorem Finding.severity_eq_warning {finding : Finding} (other : finding.kind ≠ .unsupportedMethod) :
    finding.severity = .warning := by
  cases finding with
  | notGet => exact absurd rfl other
  | _ => rfl

/-- The kinds of the findings about query parameters that are left out. -/
def parameterKinds : List DiagnosticKind :=
  [.unresolvedField, .unknownFilterType, .unsupportedOperator]

theorem kind_of_filterTarget {registry : Registry} {request : Message} {param : Parameter} {op : Operator}
    {finding : Finding} (refused : filterTarget registry request param op = .error finding) :
    finding.kind ∈ parameterKinds := by
  rw [filterTarget] at refused
  split at refused
  · obtain rfl := Except.error.inj refused
    exact List.mem_cons_self
  · split at refused
    · split at refused
      · split at refused
        · obtain rfl := Except.error.inj refused
          simp [parameterKinds, Finding.kind]
        · obtain rfl := Except.error.inj refused
          simp [parameterKinds, Finding.kind]
      · obtain rfl := Except.error.inj refused
        simp [parameterKinds, Finding.kind]
    · split at refused
      · obtain rfl := Except.error.inj refused
        simp [parameterKinds, Finding.kind]
      · split at refused
        · simp at refused
        · obtain rfl := Except.error.inj refused
          simp [parameterKinds, Finding.kind]

theorem kind_of_resolveScalar {request : Message} {param : Parameter} {finding : Finding}
    (refused : resolveScalar request param = .error finding) : finding.kind = .unresolvedField := by
  rw [resolveScalar] at refused
  split at refused
  · obtain rfl := Except.error.inj refused
    rfl
  · split at refused
    · simp at refused
    · simp at refused
    · obtain rfl := Except.error.inj refused
      rfl

/-- A parameter is reported for its field, its filter type or its operator. -/
theorem kind_of_fate {registry : Registry} {request : Message} {earlier : List Parameter}
    {param : Parameter} {finding : Finding}
    (decided : fate registry request earlier param = .reported finding) :
    finding.kind ∈ parameterKinds := by
  rw [fate] at decided
  split at decided
  · simp at decided
  · split at decided
    · split at decided
      · rename_i refused
        obtain rfl := Fate.reported.inj decided
        exact kind_of_filterTarget refused
      · split at decided
        · obtain rfl := Fate.reported.inj decided
          simp [parameterKinds, Finding.kind]
        · simp at decided
    · split at decided
      · rename_i refused
        obtain rfl := Fate.reported.inj decided
        rw [kind_of_resolveScalar refused]
        exact List.mem_cons_self
      · simp at decided
  · simp at decided
  · simp at decided

theorem fate_eq_ignored_iff {registry : Registry} {request : Message} {earlier : List Parameter}
    {param : Parameter} :
    fate registry request earlier param = .ignored ↔
      param.location = .header ∨ param.location = .cookie := by
  rw [fate]
  cases param.location with
  | path => simp
  | query =>
    simp only [reduceCtorEq, or_self, iff_false]
    split
    · split
      · simp
      · split <;> simp
    · split <;> simp
  | header => simp
  | cookie => simp

/-- Every decided parameter has its fate after some others. -/
theorem exists_fate_of_mem {registry : Registry} {request : Message} {earlier params : List Parameter}
    {decided : Parameter × Fate} (member : decided ∈ fates registry request earlier params) :
    ∃ before, decided.2 = fate registry request before decided.1 := by
  induction params generalizing earlier with
  | nil => simp [fates] at member
  | cons param rest ih =>
    rw [fates] at member
    rcases List.mem_cons.mp member with rfl | later
    · exact ⟨earlier, rfl⟩
    · exact ih later

theorem kind_of_mem_paramFindings {registry : Registry} {request : Message} {params : List Parameter}
    {finding : Finding} (member : finding ∈ paramFindings (fates registry request [] params)) :
    finding.kind ∈ parameterKinds := by
  obtain ⟨⟨param, decided⟩, inside, reported⟩ := List.mem_filterMap.mp member
  obtain ⟨before, same⟩ := exists_fate_of_mem inside
  cases decided with
  | reported other =>
    obtain rfl : other = finding := Option.some.inj reported
    exact kind_of_fate same.symm
  | kept => simp [Fate.finding?] at reported
  | ignored => simp [Fate.finding?] at reported

theorem kind_of_requiredGroups {request : Message} {params : List Parameter}
    {unresolved : Keyed (List String)} {finding : Finding}
    (member : finding ∈ (requiredGroups request params unresolved).2) :
    finding.kind = .invalidRequiredGroup := by
  obtain ⟨checked, inside, dropped⟩ := List.mem_filterMap.mp member
  obtain ⟨name, -, rfl⟩ := List.mem_map.mp inside
  rw [checkGroup] at dropped
  split at dropped
  · simp at dropped
  · rename_i refused
    obtain rfl := Option.some.inj dropped
    split at refused
    · obtain rfl := Except.error.inj refused
      rfl
    · split at refused
      · obtain rfl := Except.error.inj refused
        rfl
      · simp at refused

theorem kind_of_readEntry {document entry : Document} {finding : Finding}
    (refused : Rest.readEntry document entry = .error finding) : finding.kind = .unresolvedReference := by
  rw [Rest.readEntry] at refused
  split at refused
  · rename_i dead
    obtain rfl := Except.error.inj refused
    split at dead
    · simp at dead
    · split at dead
      · simp at dead
      · obtain rfl := Except.error.inj dead
        rfl
  · split at refused
    · simp at refused
    · obtain rfl := Except.error.inj refused
      rfl

/-- Reading entries one after the other reports references only. -/
theorem kind_of_foldl_readEntry {document : Document} (entries : List Document)
    (collected : List RawParameter × List Finding)
    (holds : ∀ finding ∈ collected.2, finding.kind = .unresolvedReference) :
    ∀ finding ∈ (entries.foldl (fun (collected, findings) entry =>
        match Rest.readEntry document entry with
        | .ok raw => (Rest.putParameter collected raw, findings)
        | .error finding => (collected, findings ++ [finding])) collected).2,
      finding.kind = .unresolvedReference := by
  induction entries generalizing collected with
  | nil => exact holds
  | cons entry rest ih =>
    rw [List.foldl_cons]
    apply ih
    cases read : Rest.readEntry document entry with
    | ok raw => simpa [read] using holds
    | error other =>
      intro finding member
      simp only [List.mem_append, List.mem_singleton] at member
      rcases member with old | rfl
      · exact holds finding old
      · exact kind_of_readEntry read

theorem kind_of_collect {document : Document} {path method : String} {finding : Finding}
    (member : finding ∈ (Rest.collect document path method).2) : finding.kind = .unresolvedReference :=
  kind_of_foldl_readEntry (Rest.parameterEntries document path method) ([], []) (by simp) finding member

theorem kind_of_findExchange {schema : Schema} {resource : String} {kind : MethodKind} {finding : Finding}
    (refused : findExchange schema resource kind = .error finding) :
    finding.kind = .missingSchemaMethod ∨ finding.kind = .missingRowMessage := by
  rw [findExchange] at refused
  split at refused
  · obtain rfl := Except.error.inj refused
    exact .inl rfl
  · split at refused
    · split at refused
      · obtain rfl := Except.error.inj refused
        exact .inr rfl
      · dsimp only at refused
        split at refused
        · simp at refused
        · obtain rfl := Except.error.inj refused
          exact .inr rfl
    · obtain rfl := Except.error.inj refused
      exact .inl rfl

theorem kind_of_resolveKey {registry : Registry} {request : Message} {param : Parameter} {finding : Finding}
    (refused : resolveKey registry request param = .error finding) : finding.kind = .invalidKeyParam := by
  rw [resolveKey] at refused
  split at refused
  · obtain rfl := Except.error.inj refused
    rfl
  · split at refused
    · split at refused
      · simp at refused
      · obtain rfl := Except.error.inj refused
        rfl
    · split at refused
      · obtain rfl := Except.error.inj refused
        rfl
      · simp at refused
    · obtain rfl := Except.error.inj refused
      rfl

/-- A draft ends early on a path parameter that fits no field, with what was found before. -/
theorem Draft.addAll_eq_error {registry : Registry} {request : Message} {params : List Parameter}
    {findings : List Finding} (failed : addAll registry request params = .error findings) :
    ∃ taken draft param finding, addAll registry request taken = .ok draft ∧
      resolveKey registry request param = .error finding ∧ findings = draft.findings ++ [finding] := by
  have step {draft : Draft} {param : Parameter}
      (failed : add registry request draft param = .error findings) :
      ∃ finding, resolveKey registry request param = .error finding ∧
        findings = draft.findings ++ [finding] := by
    rw [add] at failed
    split at failed
    · split at failed
      · simp at failed
      · rename_i finding refused
        exact ⟨finding, refused, (Except.error.inj failed).symm⟩
    · split at failed
      · split at failed <;> simp at failed
      · split at failed <;> simp at failed
    · simp at failed
    · simp at failed
  have run (params taken : List Parameter) (draft : Draft)
      (before : addAll registry request taken = .ok draft)
      (failed : params.foldlM (add registry request) draft = .error findings) :
      ∃ taken draft param finding, addAll registry request taken = .ok draft ∧
        resolveKey registry request param = .error finding ∧ findings = draft.findings ++ [finding] := by
    induction params generalizing taken draft with
    | nil => simp [pure, Except.pure] at failed
    | cons param rest ih =>
      rw [List.foldlM_cons] at failed
      rcases bind_eq_error_iff.mp failed with here | ⟨next, added, later⟩
      · obtain ⟨finding, refused, same⟩ := step here
        exact ⟨taken, draft, param, finding, before, refused, same⟩
      · refine ih (taken ++ [param]) next ?_ later
        rw [addAll] at before ⊢
        rw [List.foldlM_append, before]
        exact bind_eq_ok_iff.mpr ⟨draft, rfl, bind_eq_ok_iff.mpr ⟨next, added, rfl⟩⟩
  exact run params [] {} rfl failed

theorem Draft.exists_warning_of_addAll {registry : Registry} {request : Message}
    {params : List Parameter} {findings : List Finding}
    (failed : addAll registry request params = .error findings) :
    ∃ finding ∈ findings, finding.severity = .warning := by
  obtain ⟨taken, draft, param, finding, -, refused, rfl⟩ := addAll_eq_error failed
  refine ⟨finding, List.mem_append_right _ List.mem_cons_self, ?_⟩
  apply Finding.severity_eq_warning
  rw [kind_of_resolveKey refused]
  decide

/-- An operation that has no endpoint has a warning. -/
theorem exists_warning_of_buildEndpoint {schema : Schema} {options : BuildOptions}
    {operation : Rest.Operation} {resource : String} {raws : List RawParameter} {findings : List Finding}
    (failed : buildEndpoint schema options operation resource raws = .error findings) :
    ∃ finding ∈ findings, finding.severity = .warning := by
  rcases buildEndpoint_eq_error failed with ⟨finding, refused, rfl⟩ | rfl | ⟨exchange, -, stopped⟩
  · refine ⟨finding, List.mem_cons_self, Finding.severity_eq_warning ?_⟩
    rcases kind_of_findExchange refused with kind | kind <;> simp [kind]
  · exact ⟨_, List.mem_cons_self, rfl⟩
  · exact Draft.exists_warning_of_addAll stopped

end QuerySynth
