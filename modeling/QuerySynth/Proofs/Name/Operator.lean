import QuerySynth.Parameter.Name
import QuerySynth.Proofs.Text.Pieces

/-! # Operators at the end of a name

A name can be read in several ways as a field with an operator: `slot_not_in` is `slot` with `not_in` and
`slot_not` with `in`. Splitting looks at the last words of a name only, three, two and then one of them.
That finds the reading with the longest operator. Two readings of one name differ by the word `not`, so a
field with an operator is read back unless that word moves from the field into the operator.
-/

namespace QuerySynth

open Text

namespace Operator

def wordCount (op : Operator) : Nat :=
  (splitOn Name.delimiter op.token.toList).length

/-- The operator that is written as `not` and another one. -/
def negation? : Operator → Option Operator
  | .in => some .notIn
  | .like => some .notLike
  | .hasKey => some .notHasKey
  | _ => none

theorem wordCount_mem (op : Operator) : op.wordCount ∈ [3, 2, 1] := by
  cases op <;> decide

theorem ofToken?_eq_some_iff {text : String} {op : Operator} : ofToken? text = some op ↔ op.token = text := by
  constructor
  · intro found
    exact by simpa using List.find?_some found
  · rintro rfl
    cases op <;> rfl

theorem token_negation {op longer : Operator} (negates : op.negation? = some longer) :
    longer.token.toList = "not".toList ++ Name.delimiter :: op.token.toList := by
  cases op <;> simp only [negation?, Option.some.injEq, reduceCtorEq] at negates <;> subst negates <;> rfl

theorem wordCount_negation {op longer : Operator} (negates : op.negation? = some longer) :
    op.wordCount < longer.wordCount := by
  cases op <;> simp only [negation?, Option.some.injEq, reduceCtorEq] at negates <;> subst negates <;> decide

theorem length_token_negation {op longer : Operator} (negates : op.negation? = some longer) :
    op.token.length < longer.token.length := by
  have length := congrArg List.length (token_negation negates)
  rw [List.length_append, List.length_cons, String.length_toList, String.length_toList,
    String.length_toList] at length
  omega

/-- No operator is written with two `not`. -/
theorem negation?_negation {op longer : Operator} (negates : op.negation? = some longer) :
    longer.negation? = none := by
  cases op <;> simp only [negation?, Option.some.injEq, reduceCtorEq] at negates <;> subst negates <;> rfl

/-- One operator ends another one only where this is its negation. -/
theorem eq_or_negation_of_suffix {op longer : Operator}
    (ends : op.token.toList <:+ longer.token.toList) : op = longer ∨ op.negation? = some longer := by
  have table : ∀ op ∈ all, ∀ longer ∈ all, op.token.toList <:+ longer.token.toList →
      op = longer ∨ op.negation? = some longer := by decide
  exact table op (mem_all op) longer (mem_all longer) ends

end Operator

namespace Name

/-- A name is read as a field with an operator of the vocabulary. -/
structure Reads (registry : Registry) (name field : String) (op : Operator) : Prop where
  known : op ∈ registry.vocabulary
  field_ne : field ≠ ""
  name_eq : name = field ++ "_" ++ op.token

variable {registry : Registry} {name field other : String} {op op' : Operator}

theorem Reads.toList (reads : Reads registry name field op) :
    name.toList = field.toList ++ delimiter :: op.token.toList := by
  rw [reads.name_eq, String.toList_append, String.toList_append, List.append_assoc]
  rfl

/-- Two readings of a name are the same, or one operator is the negation of the other and the field of
that other one ends with the word `not`. -/
theorem Reads.cases (reads : Reads registry name field op) (reads' : Reads registry name other op') :
    (field = other ∧ op = op') ∨
      (op.negation? = some op' ∧ field = other ++ "_not") ∨
      (op'.negation? = some op ∧ other = field ++ "_not") := by
  -- Of two ends of one text the shorter one ends the longer one.
  have shorter {f f' : String} {o o' : Operator} (first : Reads registry name f o)
      (second : Reads registry name f' o') (ends : o.token.toList <:+ o'.token.toList) :
      (f = f' ∧ o = o') ∨ (o.negation? = some o' ∧ f = f' ++ "_not") := by
    have same := first.toList.symm.trans second.toList
    rcases Operator.eq_or_negation_of_suffix ends with rfl | negates
    · exact .inl ⟨String.toList_inj.mp (List.append_cancel_right same), rfl⟩
    · refine .inr ⟨negates, ?_⟩
      rw [Operator.token_negation negates, ← List.cons_append, ← List.append_assoc] at same
      have front := List.append_cancel_right same
      rw [← String.toList_inj, front, String.toList_append]
      rfl
  have first : op.token.toList <:+ name.toList := by
    rw [reads.toList]
    exact (List.suffix_cons _ _).trans (List.suffix_append _ _)
  have second : op'.token.toList <:+ name.toList := by
    rw [reads'.toList]
    exact (List.suffix_cons _ _).trans (List.suffix_append _ _)
  rcases List.suffix_or_suffix_of_suffix first second with ends | ends
  · rcases shorter reads reads' ends with same | longer
    · exact .inl same
    · exact .inr (.inl longer)
  · rcases shorter reads' reads ends with ⟨rfl, rfl⟩ | longer
    · exact .inl ⟨rfl, rfl⟩
    · exact .inr (.inr longer)

theorem operator?_eq_some_iff {text : String} :
    registry.operator? text = some op ↔ op ∈ registry.vocabulary ∧ op.token = text := by
  rw [Registry.operator?, Option.filter_eq_some_iff, Operator.ofToken?_eq_some_iff]
  simp only [List.contains_iff_mem, and_comm]

/-- What stands before and after a cut between words. -/
private theorem toList_of_words (text : List Char) {cut : Nat} (first : 0 < cut)
    (last : cut < (splitOn delimiter text).length) :
    text = List.intercalate [delimiter] ((splitOn delimiter text).take cut) ++
      delimiter :: List.intercalate [delimiter] ((splitOn delimiter text).drop cut) := by
  have joined := intercalate_splitOn delimiter text
  rw [← List.take_append_drop cut (splitOn delimiter text), intercalate_append] at joined
  · simpa using joined.symm
  · rw [← List.length_pos_iff, List.length_take]
    omega
  · rw [← List.length_pos_iff, List.length_drop]
    omega

/-- An operator that is taken from the last words of a name is one that the name is read with. -/
theorem reads_of_takeOperator? {count : Nat} (positive : 0 < count)
    (taken : takeOperator? registry (splitOn delimiter name.toList) count = some (field, op)) :
    Reads registry name field op ∧ op.wordCount = count := by
  rw [takeOperator?] at taken
  split at taken
  · simp at taken
  · rename_i enough
    dsimp only at taken
    split at taken
    · simp at taken
    · rename_i nonempty
      obtain ⟨_, known, same⟩ := Option.map_eq_some_iff.mp taken
      obtain ⟨rfl, rfl⟩ := Prod.mk.inj same
      obtain ⟨member, token⟩ := operator?_eq_some_iff.mp known
      have inside : (splitOn delimiter name.toList).length - count < (splitOn delimiter name.toList).length := by
        omega
      have whole := toList_of_words name.toList (by omega) inside
      have counted : ((splitOn delimiter name.toList).drop
          ((splitOn delimiter name.toList).length - count)).length = count := by
        rw [List.length_drop]
        omega
      have some : (splitOn delimiter name.toList).drop
          ((splitOn delimiter name.toList).length - count) ≠ [] := by
        rw [← List.length_pos_iff, counted]
        exact positive
      refine ⟨⟨member, ?_, ?_⟩, ?_⟩
      · simpa using nonempty
      · refine String.toList_inj.mp (whole.trans ?_)
        simp [token, delimiter]
      · rw [Operator.wordCount, token, String.toList_ofList,
          splitOn_intercalate_of_subset (List.drop_subset _ _) some, counted]

/-- An operator that a name is read with is taken from the last words of the name. -/
theorem takeOperator?_of_reads (reads : Reads registry name field op) :
    takeOperator? registry (splitOn delimiter name.toList) op.wordCount = some (field, op) := by
  have words : splitOn delimiter name.toList =
      splitOn delimiter field.toList ++ splitOn delimiter op.token.toList := by
    rw [reads.toList, splitOn_append_cons]
  have total : (splitOn delimiter name.toList).length =
      (splitOn delimiter field.toList).length + op.wordCount := by
    rw [words, List.length_append, Operator.wordCount]
  have positive : 0 < (splitOn delimiter field.toList).length :=
    List.length_pos_iff.mpr (splitOn_ne_nil _ _)
  have cut : (splitOn delimiter name.toList).length - op.wordCount =
      (splitOn delimiter field.toList).length := by omega
  have nonempty : ¬field.toList.isEmpty = true := by simpa using reads.field_ne
  have known : registry.operator? (String.ofList op.token.toList) = some op := by
    rw [operator?_eq_some_iff, String.ofList_toList]
    exact ⟨reads.known, rfl⟩
  rw [takeOperator?, if_neg (by omega)]
  dsimp only
  rw [cut, words, List.take_left, List.drop_left, intercalate_splitOn, intercalate_splitOn,
    if_neg nonempty, known, Option.map_some, String.ofList_toList]

/-- A name is split by its reading with the most words in the operator. -/
theorem splitOperator_of_reads (reads : Reads registry name field op)
    (most : ∀ other op', Reads registry name other op' → op'.wordCount ≤ op.wordCount) :
    splitOperator registry name = (field, some op) := by
  have more {count : Nat} (above : op.wordCount < count) :
      takeOperator? registry (splitOn delimiter name.toList) count = none := by
    rw [Option.eq_none_iff_forall_ne_some]
    rintro ⟨other, op'⟩ taken
    obtain ⟨reads', counted⟩ := reads_of_takeOperator? (by omega) taken
    have below := most other op' reads'
    omega
  have here := takeOperator?_of_reads reads
  have found : [3, 2, 1].findSome? (takeOperator? registry (splitOn delimiter name.toList)) =
      some (field, op) := by
    have counts := op.wordCount_mem
    simp only [List.mem_cons, List.not_mem_nil, or_false] at counts
    rcases counts with count | count | count
    · rw [count] at here
      simp [here]
    · rw [count] at here more
      simp [here, more (show 2 < 3 by decide)]
    · rw [count] at here more
      simp [here, more (show 1 < 3 by decide), more (show 1 < 2 by decide)]
  simp only [splitOperator, found]

/-- A name without a reading is a field. -/
theorem splitOperator_of_not_reads (none : ∀ field op, ¬Reads registry name field op) :
    splitOperator registry name = (name, .none) := by
  have nothing : [3, 2, 1].findSome? (takeOperator? registry (splitOn delimiter name.toList)) = .none := by
    rw [List.findSome?_eq_none_iff]
    intro count member
    have positive : 0 < count := by
      simp only [List.mem_cons, List.not_mem_nil, or_false] at member
      omega
    rw [Option.eq_none_iff_forall_ne_some]
    rintro ⟨field, op⟩ taken
    exact none field op (reads_of_takeOperator? positive taken).1
  simp only [splitOperator, nothing]

/-- Of the readings of a name one has a longer operator than the others, and the name is split by it. -/
theorem splitOperator_of_exists_reads (read : ∃ field op, Reads registry name field op) :
    ∃ field op, splitOperator registry name = (field, some op) ∧ Reads registry name field op ∧
      ∀ other op', Reads registry name other op' → (other = field ∧ op' = op) ∨ op'.negation? = some op := by
  have of_longest {field : String} {op : Operator} (reads : Reads registry name field op)
      (longest : ∀ other op', Reads registry name other op' →
        (other = field ∧ op' = op) ∨ op'.negation? = some op) :
      splitOperator registry name = (field, some op) := by
    apply splitOperator_of_reads reads
    intro other op' reads'
    rcases longest other op' reads' with ⟨-, rfl⟩ | shorter
    · exact Nat.le_refl _
    · exact Nat.le_of_lt (Operator.wordCount_negation shorter)
  obtain ⟨field, op, reads⟩ := read
  by_cases negated : ∃ stem longer, Reads registry name stem longer ∧ op.negation? = some longer
  · obtain ⟨stem, longer, reads', negates⟩ := negated
    have longest (other : String) (op' : Operator) (third : Reads registry name other op') :
        (other = stem ∧ op' = longer) ∨ op'.negation? = some longer := by
      rcases reads'.cases third with ⟨rfl, rfl⟩ | ⟨twice, -⟩ | ⟨shorter, -⟩
      · exact .inl ⟨rfl, rfl⟩
      · simp [Operator.negation?_negation negates] at twice
      · exact .inr shorter
    exact ⟨stem, longer, of_longest reads' longest, reads', longest⟩
  · have longest (other : String) (op' : Operator) (third : Reads registry name other op') :
        (other = field ∧ op' = op) ∨ op'.negation? = some op := by
      rcases reads.cases third with ⟨rfl, rfl⟩ | ⟨longer, -⟩ | ⟨shorter, -⟩
      · exact .inl ⟨rfl, rfl⟩
      · exact absurd ⟨other, op', third, longer⟩ negated
      · exact .inr shorter
    exact ⟨field, op, of_longest reads longest, reads, longest⟩

/-- The word `not` at the end of a field that goes over to the operator after it. -/
structure Absorbs (registry : Registry) (field : String) (op : Operator) (stem : String)
    (longer : Operator) : Prop where
  negates : op.negation? = some longer
  known : longer ∈ registry.vocabulary
  stem_ne : stem ≠ ""
  field_eq : field = stem ++ "_not"

/-- A field that loses its last word to the operator is another reading of the same name. -/
theorem Absorbs.reads {stem : String} {longer : Operator}
    (absorbs : Absorbs registry field op stem longer) :
    Reads registry (field ++ "_" ++ op.token) stem longer := by
  refine ⟨absorbs.known, absorbs.stem_ne, ?_⟩
  rw [← String.toList_inj]
  simp only [absorbs.field_eq, String.toList_append, Operator.token_negation absorbs.negates,
    List.append_assoc]
  rfl

/-- Splitting takes the longest operator of the vocabulary that leaves a field, and the whole name as a
field where there is none. A field with an operator is read back, unless its last word goes over to the
operator. -/
theorem splitOperator_longest (registry : Registry) :
    (∀ name, (∃ field op, Reads registry name field op) →
      ∃ field op, splitOperator registry name = (field, some op) ∧ Reads registry name field op ∧
        ∀ other op', Reads registry name other op' →
          (other = field ∧ op' = op) ∨ op'.token.length < op.token.length) ∧
    (∀ name, (¬∃ field op, Reads registry name field op) → splitOperator registry name = (name, none)) ∧
    ∀ field op, field ≠ "" → op ∈ registry.vocabulary →
      (∀ stem longer, Absorbs registry field op stem longer →
        splitOperator registry (field ++ "_" ++ op.token) = (stem, some longer)) ∧
      ((¬∃ stem longer, Absorbs registry field op stem longer) →
        splitOperator registry (field ++ "_" ++ op.token) = (field, some op)) := by
  refine ⟨?_, ?_, ?_⟩
  · intro name read
    obtain ⟨field, op, split, reads, longest⟩ := splitOperator_of_exists_reads read
    refine ⟨field, op, split, reads, ?_⟩
    intro other op' reads'
    exact (longest other op' reads').imp_right Operator.length_token_negation
  · intro name none
    exact splitOperator_of_not_reads fun field op reads => none ⟨field, op, reads⟩
  · intro field op field_ne known
    have reads : Reads registry (field ++ "_" ++ op.token) field op := ⟨known, field_ne, rfl⟩
    obtain ⟨first, longest, split, chosen, most⟩ := splitOperator_of_exists_reads ⟨field, op, reads⟩
    constructor
    · intro stem longer absorbs
      rcases most stem longer absorbs.reads with ⟨rfl, rfl⟩ | twice
      · exact split
      · simp [Operator.negation?_negation absorbs.negates] at twice
    · intro plain
      rcases reads.cases chosen with ⟨rfl, rfl⟩ | ⟨negates, field_eq⟩ | ⟨shorter, -⟩
      · exact split
      · exact absurd ⟨first, longest, negates, chosen.known, chosen.field_ne, field_eq⟩ plain
      · rcases most field op reads with ⟨rfl, rfl⟩ | longer
        · exact split
        · simp [Operator.negation?_negation shorter] at longer

/-- With the usual families `slot_not_in` is `slot` with `not_in` and `slot_in` is `slot` with `in`, while
`page_size` has no operator. -/
theorem splitOperator_standard :
    (∃ field op, splitOperator .standard "slot_not_in" = (field, some op) ∧
        Reads .standard "slot_not_in" field op) ∧
      splitOperator .standard ("slot_not" ++ "_" ++ Operator.in.token) = ("slot", some .notIn) ∧
      splitOperator .standard ("slot" ++ "_" ++ Operator.in.token) = ("slot", some .in) ∧
      splitOperator .standard "page_size" = ("page_size", none) := by
  have hasIn : Operator.in ∈ Registry.standard.vocabulary := by decide
  have hasNotIn : Operator.notIn ∈ Registry.standard.vocabulary := by decide
  obtain ⟨longest, plain, back⟩ := splitOperator_longest .standard
  refine ⟨?_, ?_, ?_, ?_⟩
  · obtain ⟨field, op, split, reads, -⟩ := longest "slot_not_in" ⟨"slot", .notIn, hasNotIn, by decide, rfl⟩
    exact ⟨field, op, split, reads⟩
  · exact (back "slot_not" .in (by decide) hasIn).1 "slot" .notIn ⟨rfl, hasNotIn, by decide, rfl⟩
  · refine (back "slot" .in (by decide) hasIn).2 ?_
    rintro ⟨stem, longer, absorbs⟩
    have ends : "_not".toList <:+ "slot".toList := by
      rw [absorbs.field_eq, String.toList_append]
      exact List.suffix_append _ _
    exact absurd ends (by decide)
  · refine plain "page_size" ?_
    rintro ⟨field, op, reads⟩
    have ends : op.token.toList <:+ "page_size".toList := by
      rw [reads.toList]
      exact (List.suffix_cons _ _).trans (List.suffix_append _ _)
    revert ends
    cases op <;> decide

end Name

end QuerySynth
