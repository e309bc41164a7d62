import Mathlib.Data.List.Forall2
import QuerySynth.Rest.Collect

/-! # Collecting inline parameters

Entries that can all be read are collected without a report. Which of them survive depends on equal
names and locations only, so descriptions that agree about these collect corresponding parameters.
-/

namespace QuerySynth.Rest

theorem readEntry_of_inline {document entry : Document} {raw : RawParameter}
    (inline : entry.get? "$ref" = none) (read : RawParameter.ofDocument entry = .ok raw) :
    readEntry document entry = .ok raw := by
  have noReference : entry.textAt? "$ref" = none := by rw [Document.textAt?, inline]; rfl
  simp [readEntry, noReference, read]

private theorem fst_collect_step (document : Document) (entries : List Document)
    (state : List RawParameter × List Finding) :
    (entries.foldl
        (fun (collected, findings) entry =>
          match readEntry document entry with
          | .ok raw => (putParameter collected raw, findings)
          | .error finding => (collected, findings ++ [finding])) state).1 =
      (entries.filterMap fun entry => (readEntry document entry).toOption).foldl putParameter state.1 := by
  induction entries generalizing state with
  | nil => rfl
  | cons entry rest ih =>
    rw [List.foldl_cons, ih, List.filterMap_cons]
    cases readEntry document entry <;> rfl

/-- Collecting puts the parameters that can be read, in the order of their entries. -/
theorem fst_collect (document : Document) (path method : String) :
    (collect document path method).1 =
      ((parameterEntries document path method).filterMap fun entry =>
        (readEntry document entry).toOption).foldl putParameter [] :=
  fst_collect_step document _ _

private theorem collect_step_of_reads {document : Document} {entries : List Document}
    {raws : List RawParameter}
    (reads : List.Forall₂ (fun entry raw => readEntry document entry = .ok raw) entries raws)
    (collected : List RawParameter) (findings : List Finding) :
    entries.foldl
        (fun (collected, findings) entry =>
          match readEntry document entry with
          | .ok raw => (putParameter collected raw, findings)
          | .error finding => (collected, findings ++ [finding]))
        (collected, findings) =
      (raws.foldl putParameter collected, findings) := by
  induction reads generalizing collected with
  | nil => rfl
  | cons read _ ih =>
    rw [List.foldl_cons, List.foldl_cons]
    simp only [read]
    exact ih _

/-- When every entry is read, nothing is reported. -/
theorem collect_of_reads {document : Document} {path method : String} {raws : List RawParameter}
    (reads : List.Forall₂ (fun entry raw => readEntry document entry = .ok raw)
      (parameterEntries document path method) raws) :
    collect document path method = (raws.foldl putParameter [], []) :=
  collect_step_of_reads reads [] []

/-- What identifies a parameter of an operation. -/
def placeOf (raw : RawParameter) : String × Location :=
  (raw.name, raw.location)

theorem nodup_putParameter {collected : List RawParameter} (distinct : (collected.map placeOf).Nodup)
    (raw : RawParameter) : ((putParameter collected raw).map placeOf).Nodup := by
  rw [putParameter, List.map_append, List.nodup_append]
  refine ⟨distinct.sublist (List.filter_sublist.map _), by simp, ?_⟩
  intro place kept other last same
  obtain ⟨old, member, rfl⟩ := List.mem_map.mp kept
  obtain rfl := List.mem_singleton.mp last
  obtain ⟨name, location⟩ := Prod.mk.inj same
  simp [name, location] at member

/-- No two collected parameters have one name and one location. -/
theorem nodup_collect (document : Document) (path method : String) :
    ((collect document path method).1.map placeOf).Nodup := by
  have run (raws collected : List RawParameter) (distinct : (collected.map placeOf).Nodup) :
      ((raws.foldl putParameter collected).map placeOf).Nodup := by
    induction raws generalizing collected with
    | nil => exact distinct
    | cons raw rest ih => exact ih _ (nodup_putParameter distinct raw)
  rw [fst_collect]
  exact run _ [] List.nodup_nil

section Correspondence

variable {R : RawParameter → RawParameter → Prop}

/-- One step: what a parameter replaces corresponds when equality of names and locations does. -/
theorem forall₂_putParameter
    (agree : ∀ old old' raw raw', R old old' → R raw raw' →
      (old.name = raw.name ∧ old.location = raw.location ↔
        old'.name = raw'.name ∧ old'.location = raw'.location))
    {collected collected' : List RawParameter} (related : List.Forall₂ R collected collected')
    {raw raw' : RawParameter} (corresponds : R raw raw') :
    List.Forall₂ R (putParameter collected raw) (putParameter collected' raw') := by
  have kept : List.Forall₂ R
      (collected.filter fun old => !(old.name == raw.name && old.location == raw.location))
      (collected'.filter fun old => !(old.name == raw'.name && old.location == raw'.location)) := by
    refine List.rel_filter ?_ related
    intro old old' relatedOld
    have same := agree old old' raw raw' relatedOld corresponds
    simp only [Bool.not_eq_true', ← Bool.not_eq_true, Bool.and_eq_true, beq_iff_eq]
    rw [same]
  exact List.rel_append kept (.cons corresponds .nil)

/-- The whole run. -/
theorem forall₂_foldl_putParameter
    (agree : ∀ old old' raw raw', R old old' → R raw raw' →
      (old.name = raw.name ∧ old.location = raw.location ↔
        old'.name = raw'.name ∧ old'.location = raw'.location))
    {raws raws' : List RawParameter} (related : List.Forall₂ R raws raws') :
    List.Forall₂ R (raws.foldl putParameter []) (raws'.foldl putParameter []) := by
  refine List.rel_foldl (P := List.Forall₂ R) ?_ .nil related
  intro collected collected' relatedCollected raw raw' corresponds
  exact forall₂_putParameter agree relatedCollected corresponds

end Correspondence

theorem exists_location_putParameter (location : Location) (collected : List RawParameter)
    (raw : RawParameter) :
    (∃ old ∈ putParameter collected raw, old.location = location) ↔
      raw.location = location ∨ ∃ old ∈ collected, old.location = location := by
  constructor
  · rintro ⟨old, member, located⟩
    rcases List.mem_append.mp member with kept | last
    · exact .inr ⟨old, (List.mem_filter.mp kept).1, located⟩
    · obtain rfl := List.mem_singleton.mp last
      exact .inl located
  · rintro (located | ⟨old, member, located⟩)
    · exact ⟨raw, List.mem_append_right _ List.mem_cons_self, located⟩
    · by_cases same : raw.location = location
      · exact ⟨raw, List.mem_append_right _ List.mem_cons_self, same⟩
      · refine ⟨old, List.mem_append_left _ (List.mem_filter.mpr ⟨member, ?_⟩), located⟩
        have different : old.location ≠ raw.location := by rw [located]; exact Ne.symm same
        simp [different]

/-- A location is among the collected parameters exactly when it is among all. -/
theorem exists_location_foldl_putParameter (location : Location) (raws collected : List RawParameter) :
    (∃ raw ∈ raws.foldl putParameter collected, raw.location = location) ↔
      (∃ raw ∈ collected, raw.location = location) ∨ ∃ raw ∈ raws, raw.location = location := by
  induction raws generalizing collected with
  | nil => simp
  | cons raw rest ih =>
    have first : (∃ other ∈ raw :: rest, other.location = location) ↔
        raw.location = location ∨ ∃ other ∈ rest, other.location = location := by simp
    rw [List.foldl_cons, ih, exists_location_putParameter, first]
    exact or_assoc.trans or_left_comm

end QuerySynth.Rest
