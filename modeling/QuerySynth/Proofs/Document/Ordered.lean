import QuerySynth.Proofs.Parameter.Flatten

/-! # Ordered documents

Every object that is read is a sorted table, at every depth. In such a document a key names one member,
so changing the value of a member leaves the document exactly when it leaves that value.
-/

namespace QuerySynth

namespace Keyed

variable {α : Type}

/-- A function that keeps the keys leaves a table when it leaves every value. -/
theorem map_eq_self_iff (f : String → α → α) (entries : Keyed α) :
    (entries.map fun (k, v) => (k, f k v)) = entries ↔ ∀ entry ∈ entries, f entry.1 entry.2 = entry.2 := by
  have each : (entries.map fun (k, v) => (k, f k v)) = entries.map id ↔
      ∀ entry ∈ entries, (entry.1, f entry.1 entry.2) = id entry := List.map_inj_left
  rw [List.map_id] at each
  simp only [each, id, Prod.ext_iff, true_and]

end Keyed

namespace Document

mutual

/-- Whether all objects in a document are sorted tables. -/
def isOrdered : Document → Bool
  | .arr items => areOrdered items
  | .obj members => decide (Keyed.Sorted members) && haveOrdered members
  | _ => true

def areOrdered : List Document → Bool
  | [] => true
  | item :: rest => item.isOrdered && areOrdered rest

def haveOrdered : List (String × Document) → Bool
  | [] => true
  | (_, value) :: rest => value.isOrdered && haveOrdered rest

end

attribute [simp] isOrdered areOrdered haveOrdered

/-- All objects in a document are sorted tables. -/
structure Ordered (document : Document) : Prop where
  isOrdered : document.isOrdered = true

theorem ordered_iff {document : Document} : document.Ordered ↔ document.isOrdered = true :=
  ⟨Ordered.isOrdered, Ordered.mk⟩

instance : DecidablePred Ordered := fun _ => decidable_of_iff _ ordered_iff.symm

theorem areOrdered_iff {items : List Document} : areOrdered items = true ↔ ∀ item ∈ items, item.Ordered := by
  induction items with
  | nil => simp
  | cons head rest ih => rw [areOrdered, Bool.and_eq_true, ih, List.forall_mem_cons, ordered_iff]

theorem haveOrdered_iff {members : List (String × Document)} :
    haveOrdered members = true ↔ ∀ entry ∈ members, entry.2.Ordered := by
  induction members with
  | nil => simp
  | cons head rest ih => rw [haveOrdered, Bool.and_eq_true, ih, List.forall_mem_cons, ordered_iff]

theorem ordered_arr {items : List Document} : (arr items).Ordered ↔ ∀ item ∈ items, item.Ordered := by
  rw [ordered_iff, Document.isOrdered, areOrdered_iff]

theorem ordered_obj {members : List (String × Document)} :
    (obj members).Ordered ↔ Keyed.Sorted members ∧ ∀ entry ∈ members, entry.2.Ordered := by
  rw [ordered_iff, Document.isOrdered, Bool.and_eq_true, decide_eq_true_iff, haveOrdered_iff]

theorem ordered_str (text : String) : (str text).Ordered := ⟨rfl⟩

theorem ordered_empty : (obj []).Ordered := ⟨by decide⟩

/-- A member of an ordered document is ordered. -/
theorem Ordered.get? {document value : Document} {key : String} (ordered : document.Ordered)
    (present : document.get? key = some value) : value.Ordered := by
  cases document with
  | obj members => exact (ordered_obj.mp ordered).2 _ (Keyed.mem_of_get? present)
  | _ => simp [Document.get?] at present

section Tables

variable {members : List (String × Document)}

theorem Ordered.insert (ordered : (obj members).Ordered) (key : String) {value : Document}
    (added : value.Ordered) : (obj (Keyed.insert key value members)).Ordered := by
  obtain ⟨sorted, each⟩ := ordered_obj.mp ordered
  refine ordered_obj.mpr ⟨Keyed.sorted_insert key value sorted, ?_⟩
  intro entry member
  rcases Keyed.mem_insert member with rfl | old
  · exact added
  · exact each entry old

theorem Ordered.insertAll (ordered : (obj members).Ordered) {added : List (String × Document)}
    (each : ∀ entry ∈ added, entry.2.Ordered) : (obj (Keyed.insertAll members added)).Ordered := by
  obtain ⟨sorted, kept⟩ := ordered_obj.mp ordered
  refine ordered_obj.mpr ⟨Keyed.sorted_insertAll added sorted, ?_⟩
  intro entry member
  rcases Keyed.mem_insertAll member with new | old
  · exact each entry new
  · exact kept entry old

theorem Ordered.filter (ordered : (obj members).Ordered) (keep : String × Document → Bool) :
    (obj (members.filter keep)).Ordered := by
  obtain ⟨sorted, each⟩ := ordered_obj.mp ordered
  refine ordered_obj.mpr ⟨Keyed.sorted_filter keep sorted, ?_⟩
  intro entry member
  exact each entry (List.mem_of_mem_filter member)

/-- A change of the values keeps the keys, so it has to keep the order in the values only. -/
theorem Ordered.map (ordered : (obj members).Ordered) (f : String → Document → Document)
    (keeps : ∀ key value, value.Ordered → (f key value).Ordered) :
    (obj (members.map fun (k, v) => (k, f k v))).Ordered := by
  obtain ⟨sorted, each⟩ := ordered_obj.mp ordered
  refine ordered_obj.mpr ⟨Keyed.sorted_map f sorted, ?_⟩
  rw [List.forall_mem_map]
  intro entry member
  exact keeps entry.1 entry.2 (each entry member)

end Tables

variable {key other : String} {f g : Document → Document} {document : Document}

theorem Ordered.mapMember (ordered : document.Ordered) (key : String)
    (keeps : ∀ value, value.Ordered → (f value).Ordered) : (document.mapMember key f).Ordered := by
  cases document with
  | obj members =>
    rw [mapMember_obj]
    refine ordered.map (fun k v => if k = key then f v else v) ?_
    intro k value inner
    split
    · exact keeps value inner
    · exact inner
  | _ => exact ordered

/-- A changed member that stays in the document was left. -/
theorem eq_of_mapMember_eq_self (same : document.mapMember key f = document) {value : Document}
    (present : document.get? key = some value) : f value = value := by
  have found := congrArg (·.get? key) same
  simpa [get?_mapMember, present] using found

theorem mapMember_eq_self_iff (ordered : document.Ordered) :
    document.mapMember key f = document ↔ ∀ value, document.get? key = some value → f value = value := by
  refine ⟨fun same value present => eq_of_mapMember_eq_self same present, fun leaves => ?_⟩
  cases document with
  | obj members =>
    rw [mapMember_obj]
    congr 1
    refine (Keyed.map_eq_self_iff (fun k v => if k = key then f v else v) members).mpr ?_
    rintro ⟨k, v⟩ member
    by_cases atKey : k = key
    · subst atKey
      have present : (obj members).get? k = some v :=
        (Keyed.get?_eq_some_iff (ordered_obj.mp ordered).1).mpr member
      rw [if_pos rfl, leaves v present]
    · rw [if_neg atKey]
  | _ => rfl

/-- Changes of one member are the same when they agree on its value. -/
theorem mapMember_congr (ordered : document.Ordered)
    (same : ∀ value, document.get? key = some value → f value = g value) :
    document.mapMember key f = document.mapMember key g := by
  cases document with
  | obj members =>
    rw [mapMember_obj, mapMember_obj]
    congr 1
    refine List.map_congr_left fun entry member => ?_
    obtain ⟨k, v⟩ := entry
    by_cases atKey : k = key
    · have present : (obj members).get? k = some v :=
        (Keyed.get?_eq_some_iff (ordered_obj.mp ordered).1).mpr member
      simp only [if_pos atKey, same v (atKey ▸ present)]
    · simp only [if_neg atKey]
  | _ => rfl

/-- Changes of different members leave a document exactly when each of them does. -/
theorem mapMember_mapMember_eq_self_iff (different : other ≠ key) (ordered : document.Ordered) :
    (document.mapMember key f).mapMember other g = document ↔
      document.mapMember key f = document ∧ document.mapMember other g = document := by
  constructor
  · intro same
    have first : document.mapMember key f = document := by
      rw [mapMember_eq_self_iff ordered]
      intro value present
      have found := congrArg (·.get? key) same
      simpa [get?_mapMember, Ne.symm different, present] using found
    exact ⟨first, by rwa [first] at same⟩
  · rintro ⟨first, second⟩
    rw [first, second]

end Document

end QuerySynth
