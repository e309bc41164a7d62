import QuerySynth.Keyed

/-! # Laws of tables

Storing and removing are described by what `get?` finds afterwards. These laws hold of every list of
entries; only extensionality and the order of the keys need a sorted one.
-/

namespace QuerySynth

namespace Keyed

variable {α β : Type}

@[simp] theorem get?_cons_self (key : String) (value : α) (rest : Keyed α) :
    get? ((key, value) :: rest) key = some value := by
  simp [get?]

theorem get?_cons_of_ne {key other : String} (different : key ≠ other) (value : α)
    (rest : Keyed α) : get? ((key, value) :: rest) other = get? rest other := by
  simp [get?, different]

theorem get?_insert (key other : String) (value : α) (entries : Keyed α) :
    get? (insert key value entries) other = if other = key then some value else get? entries other := by
  split
  · subst other
    exact get?_insert_self key value entries
  · rename_i different
    exact get?_insert_of_ne different value entries

/-- A value that is found is stored under its key. -/
theorem mem_of_get? {entries : Keyed α} {key : String} {value : α}
    (found : get? entries key = some value) : (key, value) ∈ entries := by
  induction entries with
  | nil => simp at found
  | cons head rest ih =>
    obtain ⟨k, v⟩ := head
    by_cases same : k = key
    · subst same
      obtain rfl : v = value := by simpa using found
      exact List.mem_cons_self
    · rw [get?_cons_of_ne same] at found
      exact List.mem_cons_of_mem _ (ih found)

theorem get?_eq_none_iff {entries : Keyed α} {key : String} :
    get? entries key = none ↔ key ∉ keys entries := by
  induction entries with
  | nil => simp [keys]
  | cons head rest ih =>
    obtain ⟨k, v⟩ := head
    by_cases same : k = key
    · simp [same, keys]
    · rw [get?_cons_of_ne same, ih]
      simp [keys, Ne.symm same]

/-- A function that keeps the keys commutes with every look-up. -/
theorem get?_map (f : String → α → β) (entries : Keyed α) (key : String) :
    get? (entries.map fun (k, v) => (k, f k v)) key = (get? entries key).map (f key) := by
  induction entries with
  | nil => rfl
  | cons head rest ih =>
    obtain ⟨k, v⟩ := head
    by_cases same : k = key
    · simp [same]
    · simp only [List.map_cons, get?_cons_of_ne same, ih]

/-- Entries that are chosen by their keys are found as before. -/
theorem get?_filter (keep : String → Bool) (entries : Keyed α) (key : String) :
    get? (entries.filter fun entry => keep entry.1) key =
      if keep key then get? entries key else none := by
  induction entries with
  | nil => simp
  | cons head rest ih =>
    obtain ⟨k, v⟩ := head
    by_cases same : k = key
    · subst same
      by_cases kept : keep k <;> simp [kept, ih]
    · by_cases kept : keep k
      · simp only [List.filter_cons, kept, if_true, get?_cons_of_ne same, ih]
      · simp only [List.filter_cons, kept, Bool.false_eq_true, if_false, get?_cons_of_ne same, ih]

theorem get?_erase (key other : String) (entries : Keyed α) :
    get? (erase key entries) other = if other = key then none else get? entries other := by
  rw [erase, get?_filter (· != key)]
  by_cases same : other = key <;> simp [same]

@[simp] theorem insertAll_nil (entries : Keyed α) : insertAll entries [] = entries := rfl

@[simp] theorem insertAll_cons (entries : Keyed α) (key : String) (value : α)
    (added : List (String × α)) :
    insertAll entries ((key, value) :: added) = insertAll (insert key value entries) added := rfl

theorem insert_insert_self (key : String) (first second : α) (entries : Keyed α) :
    insert key second (insert key first entries) = insert key second entries := by
  induction entries with
  | nil => simp [insert]
  | cons head rest ih =>
    obtain ⟨k, v⟩ := head
    by_cases same : key = k
    · simp [insert, same]
    · by_cases less : key < k
      · simp [insert, same, less]
      · simp [insert, same, less, ih]

private theorem lt_of_not_lt {a b : String} (different : a ≠ b) (notLess : ¬ a < b) : b < a := by
  rcases String.le_total a b with below | above
  · exact absurd (String.le_antisymm below (String.not_lt.mp notLess)) different
  · exact String.not_le.mp fun below => different (String.le_antisymm below above)

private theorem insert_comm_of_lt {first second : String} (less : first < second) (a b : α)
    (entries : Keyed α) :
    insert first a (insert second b entries) = insert second b (insert first a entries) := by
  have different : first ≠ second := by rintro rfl; exact String.lt_irrefl _ less
  have notGreater : ¬ second < first := String.lt_asymm less
  induction entries with
  | nil => simp [insert, different, Ne.symm different, less, notGreater]
  | cons head rest ih =>
    obtain ⟨k, v⟩ := head
    by_cases atSecond : second = k
    · subst atSecond
      simp [insert, different, Ne.symm different, less, notGreater]
    · by_cases belowSecond : second < k
      · have belowFirst : first < k := String.lt_trans less belowSecond
        have firstNe : first ≠ k := by rintro rfl; exact String.lt_irrefl _ belowFirst
        simp [insert, atSecond, belowSecond, belowFirst, firstNe, different, Ne.symm different, less,
          notGreater]
      · by_cases atFirst : first = k
        · subst atFirst
          simp [insert, Ne.symm different, notGreater]
        · by_cases belowFirst : first < k
          · simp [insert, atSecond, belowSecond, atFirst, belowFirst, Ne.symm different, notGreater]
          · simp [insert, atSecond, belowSecond, atFirst, belowFirst, ih]

/-- Values of different keys are stored in any order. -/
theorem insert_comm {first second : String} (different : first ≠ second) (a b : α)
    (entries : Keyed α) :
    insert first a (insert second b entries) = insert second b (insert first a entries) := by
  by_cases less : first < second
  · exact insert_comm_of_lt less a b entries
  · exact (insert_comm_of_lt (lt_of_not_lt different less) b a entries).symm

/-- Removing another key leaves the place of a stored value. -/
theorem insert_erase_insert {key other : String} (different : key ≠ other) (value : α)
    (entries : Keyed α) :
    insert key value (erase other (insert key value entries)) =
      erase other (insert key value entries) := by
  induction entries with
  | nil => simp [insert, erase, different]
  | cons head rest ih =>
    obtain ⟨k, v⟩ := head
    by_cases same : key = k
    · subst same
      simp [insert, erase, different]
    · by_cases less : key < k
      · simp [insert, erase, same, less, different]
      · by_cases removed : k = other
        · subst removed
          simpa [insert, erase, same, less] using ih
        · simpa [insert, erase, same, less, removed] using ih

theorem erase_erase_self (key : String) (entries : Keyed α) :
    erase key (erase key entries) = erase key entries := by
  simp [erase]

theorem map_insert (f : String → α → β) (key : String) (value : α) (entries : Keyed α) :
    (insert key value entries).map (fun (k, v) => (k, f k v)) =
      insert key (f key value) (entries.map fun (k, v) => (k, f k v)) := by
  induction entries with
  | nil => rfl
  | cons head rest ih =>
    obtain ⟨k, v⟩ := head
    simp only [insert, List.map_cons]
    split
    · rfl
    · split
      · rfl
      · simp only [List.map_cons, ih]

theorem map_erase (f : String → α → β) (key : String) (entries : Keyed α) :
    (erase key entries).map (fun (k, v) => (k, f k v)) =
      erase key (entries.map fun (k, v) => (k, f k v)) := by
  simp only [erase, List.filter_map]
  rfl

theorem mem_keys_insert {key other : String} {value : α} {entries : Keyed α} :
    other ∈ keys (insert key value entries) ↔ other = key ∨ other ∈ keys entries := by
  rw [← Decidable.not_iff_not, not_or, ← get?_eq_none_iff, ← get?_eq_none_iff, get?_insert]
  split <;> simp [*]

theorem mem_keys_erase {key other : String} {entries : Keyed α} :
    other ∈ keys (erase key entries) ↔ other ≠ key ∧ other ∈ keys entries := by
  rw [← Decidable.not_iff_not, ← get?_eq_none_iff, get?_erase]
  split <;> simp [*, get?_eq_none_iff]

theorem has_iff {key : String} {entries : Keyed α} : entries.has key = true ↔ key ∈ keys entries := by
  rw [has, Option.isSome_iff_ne_none, Ne, get?_eq_none_iff, Decidable.not_not]

theorem mem_keys_iff {key : String} {entries : Keyed α} :
    key ∈ keys entries ↔ ∃ value, get? entries key = some value := by
  rw [← has_iff, has, Option.isSome_iff_exists]

theorem sorted_nil : Sorted ([] : Keyed α) := List.Pairwise.nil

theorem sorted_insert (key : String) (value : α) {entries : Keyed α} (sorted : Sorted entries) :
    Sorted (insert key value entries) := by
  induction entries with
  | nil => simp [insert, Sorted]
  | cons head rest ih =>
    obtain ⟨k, v⟩ := head
    obtain ⟨above, tail⟩ := List.pairwise_cons.mp sorted
    by_cases same : key = k
    · subst same
      simpa [insert, Sorted] using sorted
    · by_cases less : key < k
      · simp only [insert, same, less, if_true, if_false]
        refine List.pairwise_cons.mpr ⟨?_, sorted⟩
        intro entry member
        rcases List.mem_cons.mp member with rfl | later
        · exact less
        · exact String.lt_trans less (above entry later)
      · simp only [insert, same, less, if_false]
        refine List.pairwise_cons.mpr ⟨?_, ih tail⟩
        intro entry member
        have known : entry.1 = key ∨ entry.1 ∈ keys rest :=
          mem_keys_insert.mp (List.mem_map_of_mem member)
        rcases known with rfl | later
        · exact lt_of_not_lt same less
        · obtain ⟨old, present, named⟩ := List.mem_map.mp later
          exact named ▸ above old present

theorem sorted_insertAll (added : List (String × α)) {entries : Keyed α} (sorted : Sorted entries) :
    Sorted (insertAll entries added) := by
  induction added generalizing entries with
  | nil => exact sorted
  | cons head rest ih => exact ih (sorted_insert _ _ sorted)

theorem sorted_ofList (entries : List (String × α)) : Sorted (ofList entries) :=
  sorted_insertAll entries sorted_nil

theorem mem_keys_insertAll {key : String} (added : List (String × α)) (entries : Keyed α) :
    key ∈ keys (insertAll entries added) ↔ key ∈ keys added ∨ key ∈ keys entries := by
  induction added generalizing entries with
  | nil => simp [keys]
  | cons head rest ih =>
    obtain ⟨k, v⟩ := head
    rw [insertAll_cons, ih, mem_keys_insert]
    simp only [keys, List.map_cons, List.mem_cons]
    exact or_left_comm.trans or_assoc.symm

theorem mem_insert {key : String} {value : α} {entries : Keyed α} {entry : String × α}
    (member : entry ∈ insert key value entries) : entry = (key, value) ∨ entry ∈ entries := by
  induction entries with
  | nil => exact .inl (List.mem_singleton.mp member)
  | cons head rest ih =>
    obtain ⟨k, v⟩ := head
    rw [insert] at member
    split at member
    · rcases List.mem_cons.mp member with same | later
      · exact .inl same
      · exact .inr (List.mem_cons_of_mem _ later)
    · split at member
      · exact List.mem_cons.mp member
      · rcases List.mem_cons.mp member with same | later
        · exact .inr (same ▸ List.mem_cons_self)
        · exact (ih later).imp_right (List.mem_cons_of_mem _)

theorem mem_insertAll {added : List (String × α)} {entries : Keyed α} {entry : String × α}
    (member : entry ∈ insertAll entries added) : entry ∈ added ∨ entry ∈ entries := by
  induction added generalizing entries with
  | nil => exact .inr member
  | cons head rest ih =>
    rcases ih member with later | earlier
    · exact .inl (List.mem_cons_of_mem _ later)
    · rcases mem_insert earlier with rfl | old
      · exact .inl List.mem_cons_self
      · exact .inr old

/-- Every entry of a table of a list is one of the list. -/
theorem mem_of_mem_ofList {added : List (String × α)} {entry : String × α}
    (member : entry ∈ ofList added) : entry ∈ added :=
  (mem_insertAll member).resolve_right List.not_mem_nil

/-- In a sorted table a key is found exactly with the value that it stores. -/
theorem get?_eq_some_iff {entries : Keyed α} (sorted : Sorted entries) {key : String} {value : α} :
    get? entries key = some value ↔ (key, value) ∈ entries := by
  refine ⟨mem_of_get?, ?_⟩
  intro member
  induction entries with
  | nil => simp at member
  | cons head rest ih =>
    obtain ⟨k, v⟩ := head
    obtain ⟨above, tail⟩ := List.pairwise_cons.mp sorted
    rcases List.mem_cons.mp member with same | later
    · obtain ⟨rfl, rfl⟩ := Prod.mk.inj same
      exact get?_cons_self key value rest
    · have different : k ≠ key := by
        rintro rfl
        exact String.lt_irrefl k (above (k, value) later)
      rw [get?_cons_of_ne different]
      exact ih tail later

/-- What the entries of a sorted table contribute grows by what a stored value adds to the one before. -/
theorem flatMap_insert {entries : Keyed α} (sorted : Sorted entries) (f : String × α → List β)
    {key : String} {value : α} {added : List β}
    (grows : (f (key, value)).Perm (((get? entries key).elim [] fun old => f (key, old)) ++ added)) :
    ((insert key value entries).flatMap f).Perm (entries.flatMap f ++ added) := by
  induction entries with
  | nil => simpa [insert] using grows
  | cons head rest ih =>
    obtain ⟨k, v⟩ := head
    obtain ⟨above, tail⟩ := List.pairwise_cons.mp sorted
    by_cases same : key = k
    · subst same
      rw [get?_cons_self, Option.elim_some] at grows
      rw [insert, if_pos rfl, List.flatMap_cons, List.flatMap_cons, List.append_assoc]
      refine (grows.append_right _).trans ?_
      rw [List.append_assoc]
      exact List.perm_append_comm.append_left _
    · rw [get?_cons_of_ne (Ne.symm same)] at grows
      by_cases less : key < k
      · have absent : get? rest key = none := by
          rw [get?_eq_none_iff]
          intro member
          obtain ⟨entry, present, named⟩ := List.mem_map.mp member
          exact String.lt_asymm less (named ▸ above entry present)
        rw [absent, Option.elim_none, List.nil_append] at grows
        rw [insert, if_neg same, if_pos less, List.flatMap_cons]
        exact (grows.append_right _).trans List.perm_append_comm
      · rw [insert, if_neg same, if_neg less, List.flatMap_cons, List.flatMap_cons, List.append_assoc]
        exact (ih tail grows).append_left _

theorem sorted_map (f : String → α → β) {entries : Keyed α} (sorted : Sorted entries) :
    Sorted (entries.map fun (k, v) => (k, f k v)) :=
  List.pairwise_map.mpr sorted

theorem sorted_filter (keep : String × α → Bool) {entries : Keyed α} (sorted : Sorted entries) :
    Sorted (entries.filter keep) :=
  List.Pairwise.filter keep sorted

theorem pairwise_keys {entries : Keyed α} (sorted : Sorted entries) :
    (keys entries).Pairwise (· < ·) :=
  List.pairwise_map.mpr sorted

theorem get?_append (first second : List (String × α)) (key : String) :
    get? (first ++ second) key = (get? first key).or (get? second key) := by
  induction first with
  | nil => simp
  | cons head rest ih =>
    obtain ⟨k, v⟩ := head
    by_cases same : k = key
    · simp [same]
    · rw [List.cons_append, get?_cons_of_ne same, get?_cons_of_ne same, ih]

/-- Among added entries with different keys each one is found. -/
theorem get?_insertAll (added : List (String × α)) (different : (keys added).Nodup)
    (entries : Keyed α) (key : String) :
    get? (insertAll entries added) key = (get? added key).or (get? entries key) := by
  induction added generalizing entries with
  | nil => simp
  | cons head rest ih =>
    obtain ⟨k, v⟩ := head
    obtain ⟨fresh, different⟩ := List.nodup_cons.mp different
    rw [insertAll_cons, ih different, get?_insert]
    by_cases same : key = k
    · subst same
      simp [get?_eq_none_iff.mpr fresh]
    · simp [same, get?_cons_of_ne (Ne.symm same)]

/-- Of added entries with one key the last one counts. -/
theorem get?_insertAll_reverse (added : List (String × α)) (entries : Keyed α) (key : String) :
    get? (insertAll entries added) key = (get? added.reverse key).or (get? entries key) := by
  induction added generalizing entries with
  | nil => rw [insertAll_nil, List.reverse_nil, get?_nil, Option.none_or]
  | cons head rest ih =>
    obtain ⟨k, v⟩ := head
    rw [insertAll_cons, ih, List.reverse_cons, get?_append, Option.or_assoc, get?_insert]
    by_cases same : key = k
    · subst same
      rw [if_pos rfl, get?_cons_self, Option.some_or]
    · rw [if_neg same, get?_cons_of_ne (Ne.symm same), get?_nil, Option.none_or]

theorem get?_ofList (entries : List (String × α)) (key : String) :
    get? (ofList entries) key = get? entries.reverse key := by
  rw [ofList, get?_insertAll_reverse, get?_nil, Option.or_none]

/-- In a table of values under their own names the first one of a name is found. -/
theorem get?_map_self (name : α → String) (values : List α) (key : String) :
    get? (values.map fun value => (name value, value)) key = values.find? (name · == key) := by
  induction values with
  | nil => rfl
  | cons value rest ih =>
    rw [List.map_cons, List.find?_cons]
    by_cases same : name value = key
    · rw [same, get?_cons_self, beq_self_eq_true]
    · rw [get?_cons_of_ne same, ih, beq_false_of_ne same]

/-- Choosing entries by their keys leaves out what is stored under another key. -/
theorem filter_insert (keep : String → Bool) {key : String} (dropped : keep key = false) (value : α)
    (entries : Keyed α) :
    (insert key value entries).filter (fun entry => keep entry.1) =
      entries.filter fun entry => keep entry.1 := by
  induction entries with
  | nil => simp [insert, dropped]
  | cons head rest ih =>
    obtain ⟨k, v⟩ := head
    simp only [insert]
    split
    · rename_i same
      subst same
      simp [dropped]
    · split
      · simp [dropped]
      · simp only [List.filter_cons, ih]

theorem filter_insertAll (keep : String → Bool) {added : List (String × α)}
    (dropped : ∀ key ∈ keys added, keep key = false) (entries : Keyed α) :
    (insertAll entries added).filter (fun entry => keep entry.1) =
      entries.filter fun entry => keep entry.1 := by
  induction added generalizing entries with
  | nil => rfl
  | cons head rest ih =>
    obtain ⟨k, v⟩ := head
    obtain ⟨first, later⟩ := List.forall_mem_cons.mp dropped
    rw [insertAll_cons, ih later, filter_insert keep first]

theorem map_insertAll (f : String → α → β) (added : List (String × α)) (entries : Keyed α) :
    (insertAll entries added).map (fun (k, v) => (k, f k v)) =
      insertAll (entries.map fun (k, v) => (k, f k v)) (added.map fun (k, v) => (k, f k v)) := by
  induction added generalizing entries with
  | nil => rfl
  | cons head rest ih =>
    obtain ⟨k, v⟩ := head
    rw [insertAll_cons, ih, map_insert, List.map_cons, insertAll_cons]

end Keyed

theorem mem_sortedNames {name : String} {names : List String} :
    name ∈ sortedNames names ↔ name ∈ names := by
  rw [sortedNames, Keyed.ofList, Keyed.mem_keys_insertAll]
  simp [Keyed.keys]

theorem pairwise_sortedNames (names : List String) : (sortedNames names).Pairwise (· < ·) :=
  Keyed.pairwise_keys (Keyed.sorted_ofList _)

theorem nodup_of_pairwise_lt {names : List String} (increasing : names.Pairwise (· < ·)) : names.Nodup := by
  refine increasing.imp ?_
  rintro a _ less rfl
  exact String.lt_irrefl a less

/-- Strictly increasing lists with the same members are equal. -/
theorem eq_of_pairwise_lt {first second : List String} (increasing : first.Pairwise (· < ·))
    (increasing' : second.Pairwise (· < ·)) (same : ∀ name, name ∈ first ↔ name ∈ second) :
    first = second := by
  have perm : first.Perm second :=
    (List.perm_ext_iff_of_nodup (nodup_of_pairwise_lt increasing) (nodup_of_pairwise_lt increasing')).mpr same
  refine perm.eq_of_pairwise ?_ increasing increasing'
  intro a b _ _ below above
  exact absurd above (String.lt_asymm below)

/-- Sorting forgets all but the members. -/
theorem sortedNames_congr {first second : List String}
    (same : ∀ name, name ∈ first ↔ name ∈ second) : sortedNames first = sortedNames second := by
  apply eq_of_pairwise_lt (pairwise_sortedNames _) (pairwise_sortedNames _)
  intro name
  rw [mem_sortedNames, mem_sortedNames, same]

@[simp] theorem sortedNames_eq_nil_iff {names : List String} : sortedNames names = [] ↔ names = [] := by
  simp only [List.eq_nil_iff_forall_not_mem, mem_sortedNames]

namespace Keyed

variable {α : Type} {first second third : Keyed α}

/-- Sorted tables in which every key is found with the same value are equal. -/
theorem eq_of_get? (sorted : first.Sorted) (sorted' : second.Sorted)
    (same : ∀ key, first.get? key = second.get? key) : first = second := by
  have nodup {entries : Keyed α} (sorted : entries.Sorted) : entries.Nodup := by
    refine sorted.imp ?_
    rintro a _ less rfl
    exact String.lt_irrefl a.1 less
  have perm : first.Perm second := by
    refine (List.perm_ext_iff_of_nodup (nodup sorted) (nodup sorted')).mpr ?_
    rintro ⟨key, value⟩
    rw [← get?_eq_some_iff sorted, ← get?_eq_some_iff sorted', same]
  refine perm.eq_of_pairwise ?_ sorted sorted'
  intro a b _ _ below above
  exact absurd above (String.lt_asymm below)

theorem get?_insertAll_of_sorted {added : Keyed α} (sorted : added.Sorted) (entries : Keyed α) (key : String) :
    get? (insertAll entries added) key = (get? added key).or (get? entries key) :=
  get?_insertAll added (nodup_of_pairwise_lt (pairwise_keys sorted)) entries key

theorem insertAll_assoc (sorted : first.Sorted) (sorted' : second.Sorted) (sorted'' : third.Sorted) :
    insertAll (insertAll first second) third = insertAll first (insertAll second third) := by
  have inner := sorted_insertAll third sorted'
  refine eq_of_get? (sorted_insertAll _ (sorted_insertAll _ sorted)) (sorted_insertAll _ sorted) fun key => ?_
  rw [get?_insertAll_of_sorted sorted'', get?_insertAll_of_sorted sorted', get?_insertAll_of_sorted inner,
    get?_insertAll_of_sorted sorted'', Option.or_assoc]

theorem insertAll_self (sorted : first.Sorted) : insertAll first first = first := by
  refine eq_of_get? (sorted_insertAll _ sorted) sorted fun key => ?_
  rw [get?_insertAll_of_sorted sorted, Option.or_self]

theorem ofList_of_sorted (sorted : first.Sorted) : ofList first = first := by
  refine eq_of_get? (sorted_ofList _) sorted fun key => ?_
  rw [ofList, get?_insertAll_of_sorted sorted, get?_nil, Option.or_none]

end Keyed

end QuerySynth
