import Mathlib.Data.List.Induction
import QuerySynth.Proofs.Storage.Commit
import QuerySynth.Proofs.Text.Pieces

/-! # Output directories

A plain name below a directory leads where the directory leads, and then to the entry of that name, so
different names have different slots. Making directories takes nothing away: what was a directory stays
one. A directory that is there is not made again, and one that was made is there.
-/

namespace QuerySynth

/-- A name of an entry of the directory itself. -/
structure PlainName (name : String) : Prop where
  nonempty : name ≠ ""
  noSlash : '/' ∉ name.toList
  notHere : name ≠ "."
  notUp : name ≠ ".."

namespace Path

theorem endsInSlash_iff {path : Path} :
    path.endsInSlash = true ↔ path.text.toList.getLast? = some '/' :=
  Text.endsWith_singleton_iff

variable {directory : Path} {name : String}

theorem toList_ne_nil (plain : PlainName name) : name.toList ≠ [] := by
  intro empty
  exact plain.nonempty (String.toList_eq_nil_iff.mp empty)

/-- The text of a joined path is that of the directory, a slash if it needs one, and the name. -/
theorem toList_join (directory : Path) (plain : PlainName name) :
    (directory.join name).text.toList = directory.text.toList ++ name.toList ∧
        (directory.text.toList = [] ∨ directory.text.toList.getLast? = some '/') ∨
      (directory.join name).text.toList = directory.text.toList ++ '/' :: name.toList ∧
        directory.text.toList ≠ [] := by
  have relative : (Path.mk name).isAbsolute = false := by
    rw [isAbsolute, decide_eq_false_iff_not]
    exact fun first => plain.noSlash (List.mem_of_mem_head? first)
  rw [join, if_neg (by simp [relative])]
  by_cases direct : directory.text = "" ∨ directory.endsInSlash = true
  · rw [if_pos (by simpa using direct)]
    refine .inl ⟨String.toList_append, direct.imp (fun empty => by rw [empty]; rfl) endsInSlash_iff.mp⟩
  · obtain ⟨nonempty, -⟩ := not_or.mp direct
    rw [if_neg (by simpa using direct)]
    refine .inr ⟨?_, fun empty => nonempty (String.toList_eq_nil_iff.mp empty)⟩
    rw [String.toList_append, String.toList_append, List.append_assoc]
    rfl

theorem text_join_ne (plain : PlainName name) : (directory.join name).text ≠ "" := by
  intro empty
  have nil : (directory.join name).text.toList = [] := by rw [empty]; rfl
  rcases toList_join directory plain with ⟨text, -⟩ | ⟨text, -⟩
  · rw [text, List.append_eq_nil_iff] at nil
    exact toList_ne_nil plain nil.2
  · rw [text] at nil
    simp at nil

/-- A joined path starts where the directory does. -/
theorem isAbsolute_join (plain : PlainName name) : (directory.join name).isAbsolute = directory.isAbsolute := by
  have relative : name.toList.head? ≠ some '/' := fun first => plain.noSlash (List.mem_of_mem_head? first)
  rw [isAbsolute, isAbsolute, decide_eq_decide]
  rcases toList_join directory plain with ⟨text, -⟩ | ⟨text, nonempty⟩
  · rw [text]
    cases directory.text.toList with
    | nil => simpa using relative
    | cons => rfl
  · rw [text]
    cases listed : directory.text.toList with
    | nil => exact absurd listed nonempty
    | cons => rfl

theorem endsInSlash_join (plain : PlainName name) : (directory.join name).endsInSlash = false := by
  have last : (directory.join name).text.toList.getLast? = name.toList.getLast? := by
    have nonempty := toList_ne_nil plain
    rcases toList_join directory plain with ⟨text, -⟩ | ⟨text, -⟩
    · rw [text, List.getLast?_append_of_ne_nil _ nonempty]
    · rw [text, List.getLast?_append_of_ne_nil _ (by simp), List.getLast?_cons_of_ne_nil nonempty]
  rw [← Bool.not_eq_true, endsInSlash_iff, last]
  exact fun slash => plain.noSlash (List.mem_of_getLast? slash)

/-- A joined path has one more step. -/
theorem steps_join (plain : PlainName name) : (directory.join name).steps = directory.steps ++ [name] := by
  have single : Text.splitOn '/' name.toList = [name.toList] := Text.splitOn_of_notMem plain.noSlash
  have kept : ([name.toList].filter fun piece => piece ≠ []).map String.ofList = [name] := by
    rw [List.filter_cons_of_pos (by simpa using toList_ne_nil plain), List.filter_nil, List.map_singleton,
      String.ofList_toList]
  rw [steps, pieces, steps, pieces]
  rcases toList_join directory plain with ⟨text, empty | slash⟩ | ⟨text, -⟩
  · rw [text, empty, List.nil_append, single, kept]
    rfl
  · obtain ⟨init, split⟩ := List.getLast?_eq_some_iff.mp slash
    rw [text, split, List.append_assoc, List.singleton_append, Text.splitOn_append_cons, single,
      Text.splitOn_append_cons, List.filter_append, List.filter_append, List.map_append, List.map_append, kept]
    simp [Text.splitOn]
  · rw [text, Text.splitOn_append_cons, single, List.filter_append, List.map_append, kept]

end Path

namespace Storage

variable {storage before middle after : Storage} {directory path : Path} {name : String} {place reached : Place}

/-- A name below a directory is looked up where the steps of the directory lead. -/
theorem target_join (plain : PlainName name) :
    storage.target (directory.join name) =
      (storage.enter (storage.start directory) directory.steps).map (Target.named · name) := by
  have start : storage.start (directory.join name) = storage.start directory := by
    rw [Storage.start, Storage.start, Path.isAbsolute_join plain]
  rw [target, if_neg (Path.text_join_ne plain), Path.steps_join plain, List.getLast?_concat, start]
  simp only [List.dropLast_concat, if_neg plain.notHere, if_neg plain.notUp]
  cases storage.enter (storage.start directory) directory.steps <;> rfl

theorem slot?_join_eq_some_iff (plain : PlainName name) :
    storage.slot? (directory.join name) = some place ↔
      ∃ outer, storage.enter (storage.start directory) directory.steps = .ok outer ∧
        storage.at? place ≠ some .directory ∧ place = outer ++ [name] := by
  rw [slot?_eq_some_iff, target_join plain]
  constructor
  · rintro ⟨outer, last, led, -, free, rfl⟩
    cases entered : storage.enter (storage.start directory) directory.steps with
    | error fault => simp [entered, Except.map] at led
    | ok led' =>
      rw [entered] at led
      obtain ⟨rfl, rfl⟩ : led' = outer ∧ name = last := by simpa [Except.map] using led
      exact ⟨led', rfl, free, rfl⟩
  · rintro ⟨outer, entered, free, rfl⟩
    exact ⟨outer, name, by rw [entered]; rfl, Path.endsInSlash_join plain, free, rfl⟩

/-- Different names in one directory have different slots. -/
theorem eq_of_slot?_join {other : String} (plain : PlainName name) (otherPlain : PlainName other)
    (slot : storage.slot? (directory.join name) = some place)
    (otherSlot : storage.slot? (directory.join other) = some place) : name = other := by
  obtain ⟨outer, -, -, rfl⟩ := (slot?_join_eq_some_iff plain).mp slot
  obtain ⟨outer', -, -, same⟩ := (slot?_join_eq_some_iff otherPlain).mp otherSlot
  exact List.singleton_inj.mp (List.append_inj' same rfl).2

theorem isDirectory_iff :
    storage.isDirectory path = true ↔
      (∃ inner, storage.target path = .ok (.directory inner)) ∨
        ∃ inner last, storage.target path = .ok (.named inner last) ∧
          storage.at? (inner ++ [last]) = some .directory := by
  rw [isDirectory, find]
  cases reached : storage.target path with
  | error fault => simp [bind, Except.bind]
  | ok target =>
    cases target with
    | directory inner => simp [bind, Except.bind]
    | named inner last =>
      simp only [bind, Except.bind]
      rcases held : storage.at? (inner ++ [last]) with _ | bytes | _
      · simp [held]
      · cases path.endsInSlash <;> simp [held]
      · simp [held]

theorem isDirectory_congr (same : SameDirectories before after) (path : Path) :
    after.isDirectory path = before.isDirectory path := by
  rw [Bool.eq_iff_iff, isDirectory_iff, isDirectory_iff]
  simp only [target_eq_ok_congr same, same.directories]

theorem enter_append {names rest : List String} :
    storage.enter place (names ++ rest) = .ok reached ↔
      ∃ middle, storage.enter place names = .ok middle ∧ storage.enter middle rest = .ok reached := by
  induction names generalizing place with
  | nil => simp [enter]
  | cons name others ih =>
    rw [List.cons_append]
    by_cases here : name = "."
    · rw [enter, enter, if_pos here, if_pos here, ih]
    · by_cases up : name = ".."
      · rw [enter, enter, if_neg here, if_neg here, if_pos up, if_pos up, ih]
      · simp only [enter_cons_eq_ok_iff here up, ih, and_assoc, exists_and_left]

/-- A path whose steps lead somewhere is a directory. -/
theorem isDirectory_of_enter (nonempty : path.text ≠ "")
    (led : storage.enter (storage.start path) path.steps = .ok reached) : storage.isDirectory path = true := by
  rw [isDirectory_iff, target, if_neg nonempty]
  rcases List.eq_nil_or_concat path.steps with none | ⟨init, last, split⟩
  · rw [none]
    exact .inl ⟨_, rfl⟩
  · rw [List.concat_eq_append] at split
    rw [split] at led
    rw [split, List.getLast?_concat, List.dropLast_concat]
    obtain ⟨outer, entered, step⟩ := enter_append.mp led
    dsimp only
    rw [entered]
    by_cases here : last = "."
    · exact .inl ⟨outer, by simp [here]⟩
    · by_cases up : last = ".."
      · exact .inl ⟨outer.dropLast, by simp [up]⟩
      · obtain ⟨held, -⟩ := (enter_cons_eq_ok_iff here up).mp step
        exact .inr ⟨outer, last, by simp [here, up], held⟩

/-- Paths start where they did, and every directory is still one. -/
structure Grown (before after : Storage) : Prop where
  home : after.home = before.home
  directories : ∀ place, before.at? place = some .directory → after.at? place = some .directory

theorem Grown.refl (storage : Storage) : Grown storage storage :=
  ⟨rfl, fun _ => id⟩

theorem Grown.trans (first : Grown before middle) (second : Grown middle after) : Grown before after :=
  ⟨second.home.trans first.home, fun place => second.directories place ∘ first.directories place⟩

/-- Names lead where they led before. -/
theorem Grown.enter (grown : Grown before after) {names : List String}
    (led : before.enter place names = .ok reached) : after.enter place names = .ok reached := by
  induction names generalizing place with
  | nil => rwa [Storage.enter] at led ⊢
  | cons name rest ih =>
    by_cases here : name = "."
    · rw [Storage.enter, if_pos here] at led ⊢
      exact ih led
    · by_cases up : name = ".."
      · rw [Storage.enter, if_neg here, if_pos up] at led ⊢
        exact ih led
      · obtain ⟨held, led⟩ := (enter_cons_eq_ok_iff here up).mp led
        exact (enter_cons_eq_ok_iff here up).mpr ⟨grown.directories _ held, ih led⟩

theorem Grown.target (grown : Grown before after) {target : Target}
    (led : before.target path = .ok target) : after.target path = .ok target := by
  have start : after.start path = before.start path := by rw [Storage.start, Storage.start, grown.home]
  rw [Storage.target] at led ⊢
  split at led
  · cases led
  · rename_i nonempty
    rw [if_neg nonempty, start]
    split at led
    · exact led
    · obtain ⟨outer, entered, led⟩ := bind_eq_ok_iff.mp led
      exact bind_eq_ok_iff.mpr ⟨outer, grown.enter entered, led⟩

theorem makeDirectory_eq_ok_iff :
    storage.makeDirectory path = .ok after ↔
      ∃ outer last, storage.target path = .ok (.named outer last) ∧
        storage.at? (outer ++ [last]) = none ∧ after = storage.put (outer ++ [last]) .directory := by
  rw [makeDirectory, bind_eq_ok_iff]
  constructor
  · rintro ⟨target, led, made⟩
    cases target with
    | directory place => cases made
    | named outer last =>
      dsimp only at made
      split at made
      · cases made
      · rename_i vacant
        exact ⟨outer, last, led, by simpa using vacant, (Except.ok.inj made).symm⟩
  · rintro ⟨outer, last, led, vacant, rfl⟩
    exact ⟨_, led, by simp [vacant]⟩

theorem grown_makeDirectory (made : storage.makeDirectory path = .ok after) : Grown storage after := by
  obtain ⟨outer, last, -, vacant, rfl⟩ := makeDirectory_eq_ok_iff.mp made
  refine ⟨rfl, fun place held => ?_⟩
  rw [at?_put (by simp)]
  split
  · rfl
  · exact held

/-- What was made is there. -/
theorem isDirectory_makeDirectory (made : storage.makeDirectory path = .ok after) :
    after.isDirectory path = true := by
  have grown := grown_makeDirectory made
  obtain ⟨outer, last, led, -, rfl⟩ := makeDirectory_eq_ok_iff.mp made
  exact isDirectory_iff.mpr (.inr ⟨outer, last, grown.target led, at?_put_self (by simp) _ _⟩)

/-- What is there is not made. -/
theorem makeDirectory_of_isDirectory (present : storage.isDirectory path = true) :
    storage.makeDirectory path = .error .occupied := by
  rw [makeDirectory]
  rcases isDirectory_iff.mp present with ⟨inner, led⟩ | ⟨inner, last, led, held⟩
  · rw [led]
    rfl
  · rw [led]
    simp [bind, Except.bind, held]

theorem grown_makeDirectories (storage : Storage) (directory : Path) :
    Grown storage (storage.makeDirectories directory).1 :=
  makeMissing_induction Grown.refl Grown.trans grown_makeDirectory directory.withParents storage

/-- The directory is there when making it with its parents succeeds. -/
private theorem isDirectory_makeMissing {parents : List Path}
    (made : storage.makeMissing (path :: parents) = (after, .ok ())) : after.isDirectory path = true := by
  rw [makeMissing] at made
  split at made
  · rename_i made'
    obtain ⟨rfl, -⟩ := Prod.mk.inj made
    exact isDirectory_makeDirectory made'
  · split at made
    · cases made
    · split at made
      · rename_i made'
        obtain ⟨rfl, -⟩ := Prod.mk.inj made
        exact isDirectory_makeDirectory made'
      · obtain ⟨rfl, outcome⟩ := Prod.mk.inj made
        split at outcome
        · assumption
        · cases outcome
  · obtain ⟨rfl, outcome⟩ := Prod.mk.inj made
    split at outcome
    · assumption
    · cases outcome

/-- The output directory is there. The empty path stands for the home, which always is. -/
def Reaches (storage : Storage) (directory : Path) : Prop :=
  directory.text = "" ∨ storage.isDirectory directory = true

theorem reaches_makeDirectories (made : storage.makeDirectories directory = (after, .ok ())) :
    after.Reaches directory := by
  by_cases here : directory.text = ""
  · exact .inl here
  · rw [makeDirectories, Path.withParents, Path.withParents.go, if_neg here] at made
    exact .inr (isDirectory_makeMissing made)

/-- A directory that is there is left as it is. -/
theorem makeDirectories_of_reaches (present : storage.Reaches directory) :
    storage.makeDirectories directory = (storage, .ok ()) := by
  rw [makeDirectories, Path.withParents, Path.withParents.go]
  by_cases here : directory.text = ""
  · rw [if_pos here]
    rfl
  · have there := present.resolve_left here
    rw [if_neg here, makeMissing, makeDirectory_of_isDirectory there]
    simp [there]

theorem Reaches.congr (present : before.Reaches directory) (same : SameDirectories before after) :
    after.Reaches directory :=
  present.imp_right fun there => by rwa [isDirectory_congr same]

theorem reaches_of_enter (led : storage.enter (storage.start directory) directory.steps = .ok reached) :
    storage.Reaches directory :=
  or_iff_not_imp_left.mpr fun nonempty => isDirectory_of_enter nonempty led

/-- Every entry lies in a directory. -/
def Rooted (storage : Storage) : Prop :=
  ∀ place name, (storage.at? (place ++ [name])).isSome → storage.at? place = some .directory

/-- What leads to a directory is a directory. -/
theorem Rooted.at?_of_prefix (rooted : storage.Rooted) {outer : Place} (below : outer <+: place)
    (held : storage.at? place = some .directory) : storage.at? outer = some .directory := by
  obtain ⟨rest, rfl⟩ := below
  induction rest using List.reverseRecOn with
  | nil => rwa [List.append_nil] at held
  | append_singleton rest name ih =>
    rw [← List.append_assoc] at held
    exact ih (rooted _ name (by rw [held]; rfl))

/-- Steps that never go up lead below the place where they start. -/
theorem prefix_of_enter {names : List String} (down : ".." ∉ names)
    (led : storage.enter place names = .ok reached) : place <+: reached := by
  induction names generalizing place with
  | nil =>
    obtain rfl := Except.ok.inj led
    exact List.prefix_rfl
  | cons name rest ih =>
    obtain ⟨notUp, later⟩ := not_or.mp (mt List.mem_cons.mpr down)
    by_cases here : name = "."
    · rw [enter, if_pos here] at led
      exact ih later led
    · obtain ⟨-, led⟩ := (enter_cons_eq_ok_iff here (Ne.symm notUp)).mp led
      exact (List.prefix_append place [name]).trans (ih later led)

/-- Where steps that never go up lead to an earlier directory, they led to it before. -/
theorem Rooted.enter (rooted : before.Rooted) {names : List String} (down : ".." ∉ names)
    (led : after.enter place names = .ok reached) (held : before.at? reached = some .directory) :
    before.enter place names = .ok reached := by
  induction names generalizing place with
  | nil => rwa [Storage.enter] at led ⊢
  | cons name rest ih =>
    obtain ⟨notUp, later⟩ := not_or.mp (mt List.mem_cons.mpr down)
    by_cases here : name = "."
    · rw [Storage.enter, if_pos here] at led ⊢
      exact ih later led
    · obtain ⟨-, led⟩ := (enter_cons_eq_ok_iff here (Ne.symm notUp)).mp led
      exact (enter_cons_eq_ok_iff here (Ne.symm notUp)).mpr
        ⟨rooted.at?_of_prefix (prefix_of_enter later led) held, ih later led⟩

end Storage

end QuerySynth
