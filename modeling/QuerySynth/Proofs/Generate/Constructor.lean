import Mathlib.Data.List.Nodup
import QuerySynth.Generate.Constructor
import QuerySynth.Proofs.Code.Parts
import QuerySynth.Proofs.Keyed

/-! # Definitions of filter constructors

A module of constructors defines each of its families exactly once: families differ in the names of
their messages and of their constructors. What a parameter takes is decided by its operator alone.
-/

namespace QuerySynth

open Code

namespace Family

def all : List Family :=
  ScalarKind.all.flatMap fun kind => [false, true].flatMap fun nullable => [⟨kind, nullable, false⟩,
    ⟨kind, nullable, true⟩]

theorem mem_all (family : Family) : family ∈ all := by
  obtain ⟨kind, nullable, map⟩ := family
  cases kind <;> cases nullable <;> cases map <;> decide

theorem name_injective {first second : Family} (same : first.name = second.name) : first = second := by
  have distinct : (all.map name).Nodup := by decide
  exact List.inj_on_of_nodup_map distinct (mem_all first) (mem_all second) same

/-- A name of word characters without a digit in front is clean. -/
theorem cleaned_of_words {first : Char} {rest : List Char} (words : (first :: rest).all isWordChar = true)
    (letter : first.isDigit = false) : cleaned (first :: rest) = first :: rest := by
  have replaced : (first :: rest).map (fun c => if isWordChar c then c else '_') = first :: rest := by
    refine (List.map_congr_left ?_).trans (List.map_id _)
    intro c member
    exact if_pos (List.all_eq_true.mp words c member)
  rw [cleaned, replaced]
  simp [letter]

theorem words_constructorName (family : Family) :
    family.constructorName.toList.all isWordChar = true := by
  have slug : family.kind.slug.toList.all isWordChar = true := by cases family.kind <;> decide
  have nullable : (if family.nullable then "nullable_" else "").toList.all isWordChar = true := by
    split <;> decide
  have map : (if family.map then "map_string_" else "").toList.all isWordChar = true := by
    split <;> decide
  have start : "build_".toList.all isWordChar = true := by decide
  have ending : "_filter".toList.all isWordChar = true := by decide
  simp only [constructorName, String.toList_append, List.all_append, start, nullable, map, slug, ending,
    Bool.and_self]

theorem legalized_constructorName (family : Family) :
    legalized family.constructorName = family.constructorName := by
  have legal : ∀ family ∈ all, legalized family.constructorName = family.constructorName := by
    decide +kernel
  exact legal family (mem_all family)

/-- The name of a constructor is an identifier as it stands. -/
theorem ident_constructorName (family : Family) :
    ident family.constructorName = family.constructorName := by
  have words := words_constructorName family
  have start : ∃ rest, family.constructorName.toList = 'b' :: rest := by
    have build : "build_".toList = 'b' :: "uild_".toList := by decide
    simp only [constructorName, String.toList_append, build, List.cons_append]
    exact ⟨_, rfl⟩
  obtain ⟨rest, start⟩ := start
  rw [start] at words
  rw [ident, start, cleaned_of_words words (by decide), ← start, String.ofList_toList,
    legalized_constructorName]

theorem constructorName_injective {first second : Family}
    (same : first.constructorName = second.constructorName) : first = second := by
  have distinct : (all.map constructorName).Nodup := by decide
  exact List.inj_on_of_nodup_map distinct (mem_all first) (mem_all second) same

/-- The parameters that take lists are those of the list operators. -/
theorem isOptionalList_argumentType (family : Family) (op : Operator) :
    (family.argumentType op).isOptionalList = op.isList := by
  cases op <;> rfl

theorem name_constructor (family : Family) : family.constructor.name = ident family.constructorName := by
  rw [constructor]

theorem params_constructor (family : Family) :
    family.constructor.params = family.operators.map fun op => (argument op, family.argumentType op) :=
  rfl

end Family

variable {around : Surroundings} {families : List Family}

/-- The families of a module, by the names of their messages. -/
theorem functions_constructorModule :
    (constructorModule around families).functions =
      (Keyed.ofList (families.map fun family => (family.name, family))).values.map (·.constructor) := by
  rw [Code.Module.functions, constructorModule]
  have functions := filterMap_function_map
    ((Keyed.ofList (families.map fun family => (family.name, family))).values.map (·.constructor))
  rw [List.map_map] at functions
  exact functions

private theorem mem_values {family : Family} :
    family ∈ (Keyed.ofList (families.map fun family => (family.name, family))).values ↔
      family ∈ families := by
  constructor
  · intro member
    obtain ⟨entry, stored, rfl⟩ := List.mem_map.mp member
    obtain ⟨other, given, rfl⟩ := List.mem_map.mp (Keyed.mem_of_mem_ofList stored)
    exact given
  · intro given
    have key : family.name ∈ (Keyed.ofList (families.map fun family => (family.name, family))).keys := by
      rw [Keyed.ofList, Keyed.mem_keys_insertAll, Keyed.keys, List.map_map]
      exact .inl (List.mem_map_of_mem given)
    obtain ⟨entry, stored, name⟩ := List.mem_map.mp key
    obtain ⟨other, -, rfl⟩ := List.mem_map.mp (Keyed.mem_of_mem_ofList stored)
    obtain rfl := Family.name_injective name
    exact List.mem_map_of_mem stored

private theorem nodup_values :
    (Keyed.ofList (families.map fun family => (family.name, family))).values.Nodup := by
  apply List.Nodup.of_map Family.name
  have names : (Keyed.ofList (families.map fun family => (family.name, family))).values.map (·.name) =
      (Keyed.ofList (families.map fun family => (family.name, family))).keys := by
    rw [Keyed.values, Keyed.keys, List.map_map]
    apply List.map_congr_left
    intro entry stored
    obtain ⟨family, -, rfl⟩ := List.mem_map.mp (Keyed.mem_of_mem_ofList stored)
    rfl
  rw [names]
  refine (Keyed.pairwise_keys (Keyed.sorted_ofList _)).imp ?_
  intro a b below same
  exact String.lt_irrefl _ (same ▸ below)

/-- The functions of a module are the constructors of the given families. -/
theorem mem_functions_constructorModule {function : Function} :
    function ∈ (constructorModule around families).functions ↔
      ∃ family ∈ families, family.constructor = function := by
  simp only [functions_constructorModule, List.mem_map, mem_values]

/-- A module of constructors defines every name once. -/
theorem nodup_names_constructorModule : ((constructorModule around families).functions.map (·.name)).Nodup := by
  rw [functions_constructorModule, List.map_map]
  refine nodup_values.map ?_
  intro first second same
  simp only [Function.comp_apply, Family.name_constructor, Family.ident_constructorName] at same
  exact Family.constructorName_injective same

/-- A given family has exactly one definition. -/
theorem filter_functions_constructorModule {family : Family} (given : family ∈ families) :
    (constructorModule around families).functions.filter
      (fun function => function.name = ident family.constructorName) = [family.constructor] := by
  have selected (other : Family) :
      decide (other.constructor.name = ident family.constructorName) = (other == family) := by
    rw [Bool.eq_iff_iff, decide_eq_true_iff, beq_iff_eq, Family.name_constructor]
    constructor
    · intro same
      rw [Family.ident_constructorName, Family.ident_constructorName] at same
      exact Family.constructorName_injective same
    · rintro rfl
      rfl
  have single : (Keyed.ofList (families.map fun family => (family.name, family))).values.filter
      (· == family) = [family] := by
    rw [List.filter_beq, List.count_eq_one_of_mem nodup_values (mem_values.mpr given)]
    rfl
  rw [functions_constructorModule, List.filter_map]
  simp only [Function.comp_def, selected, single, List.map_cons, List.map_nil]

end QuerySynth
