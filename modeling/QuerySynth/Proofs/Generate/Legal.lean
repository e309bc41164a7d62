import QuerySynth.Proofs.Generate.Names

/-! # Legal identifiers

The identifiers of generated code are made by a library that reads an identifier from a text, or makes a
plain or a raw one of it. Making one of a text that may not be an identifier ends the program. No name leads
to that, and what is made is legal: no keyword stands for itself. The names that handlers get from their
operations keep apart.
-/

namespace QuerySynth

namespace Code

/-- Texts with the form of an identifier: word characters, and no digit in front. -/
structure IsWord (text : String) : Prop where
  words : ∀ c ∈ text.toList, isWordChar c = true
  front : text.toList.head?.all Char.isDigit = false

instance (text : String) : Decidable (IsWord text) :=
  decidable_of_iff (text.toList.all isWordChar = true ∧ text.toList.head?.all Char.isDigit = false)
    ⟨fun ⟨words, front⟩ => ⟨List.all_eq_true.mp words, front⟩,
      fun ⟨words, front⟩ => ⟨List.all_eq_true.mpr words, front⟩⟩

/-- Words that may be written raw. -/
def MayBeRaw (text : String) : Prop :=
  IsWord text ∧ text ∉ "_" :: pathKeywords

instance (text : String) : Decidable (MayBeRaw text) :=
  inferInstanceAs (Decidable (_ ∧ _))

/-- Words that are an identifier as they stand. -/
def IsPlain (text : String) : Prop :=
  IsWord text ∧ text ≠ "_" ∧ text ∉ keywords

instance (text : String) : Decidable (IsPlain text) :=
  inferInstanceAs (Decidable (_ ∧ _ ∧ _))

/-- The texts that stand for an identifier in code. -/
inductive Legal : String → Prop where
  | plain {text : String} (isPlain : IsPlain text) : Legal text
  | raw {text : String} (mayBeRaw : MayBeRaw text) : Legal ("r#" ++ text)

/-- What makes identifiers. Where one cannot be made, the program ends. -/
structure IdentLibrary where
  /-- The identifier that a text is as it stands, if it is one. -/
  read? : String → Option String
  /-- A plain identifier of a text. -/
  makePlain? : String → Option String
  /-- A raw identifier of a text. -/
  makeRaw? : String → Option String

/-- What a library promises about words: to read those that are identifiers as they stand, to make a plain
identifier of any, and a raw one of those that may be raw. -/
structure IdentLibrary.Lawful (library : IdentLibrary) : Prop where
  read : ∀ text, IsWord text → library.read? text = if IsPlain text then some text else none
  makePlain : ∀ text, IsWord text → library.makePlain? text = some text
  makeRaw : ∀ text, MayBeRaw text → library.makeRaw? text = some ("r#" ++ text)

/-- A library that refuses everything else. -/
def IdentLibrary.strict : IdentLibrary where
  read? text := if IsPlain text then some text else none
  makePlain? text := if IsWord text then some text else none
  makeRaw? text := if MayBeRaw text then some ("r#" ++ text) else none

theorem IdentLibrary.lawful_strict : strict.Lawful where
  read _ _ := rfl
  makePlain _ word := if_pos word
  makeRaw _ mayBeRaw := if_pos mayBeRaw

/-- The identifier that a library makes for a name, if the program does not end. -/
def IdentLibrary.ident? (library : IdentLibrary) (name : String) : Option String :=
  let clean := String.ofList (cleaned name.toList)
  if pathKeywords.contains clean then library.makePlain? (clean ++ "_")
  else
    match library.read? clean with
    | some found => some found
    | none => if clean == "_" then library.makePlain? "__" else library.makeRaw? clean

theorem isWord_cleaned (name : String) : IsWord (String.ofList (cleaned name.toList)) := by
  constructor
  · rw [String.toList_ofList]
    exact fun c => isWordChar_of_mem_cleaned
  · rw [String.toList_ofList, cleaned_eq]
    split
    · rfl
    · rename_i front
      exact Bool.eq_false_iff.mpr front

/-- A path keyword is no keyword with an underscore after it. -/
theorem isPlain_append {text : String} (place : text ∈ pathKeywords) : IsPlain (text ++ "_") := by
  revert text
  decide

/-- A word that is neither the lone underscore nor a path keyword may be raw. -/
theorem mayBeRaw_of_ne {text : String} (word : IsWord text) (lone : text ≠ "_")
    (noPlace : ¬pathKeywords.contains text = true) : MayBeRaw text := by
  refine ⟨word, fun member => ?_⟩
  rcases List.mem_cons.mp member with same | place
  · exact lone same
  · exact noPlace (List.contains_iff_mem.mpr place)

theorem legal_legalized {clean : String} (word : IsWord clean) : Legal (legalized clean) := by
  rw [legalized]
  split
  · rename_i place
    exact .plain (isPlain_append (List.contains_iff_mem.mp place))
  · rename_i noPlace
    split
    · exact .plain (by decide)
    · rename_i notLone
      have other : clean ≠ "_" := fun same => notLone (beq_iff_eq.mpr same)
      split
      · exact .raw (mayBeRaw_of_ne word other noPlace)
      · rename_i noKeyword
        exact .plain ⟨word, other, fun keyword => noKeyword (List.contains_iff_mem.mpr keyword)⟩

section Library

variable {library : IdentLibrary} (lawful : library.Lawful)

include lawful

/-- The library makes an identifier for every name, the legal form of the cleaned name. -/
theorem IdentLibrary.Lawful.ident?_eq (name : String) : library.ident? name = some (ident name) := by
  have word := isWord_cleaned name
  rw [ident?, ident]
  generalize String.ofList (cleaned name.toList) = clean at word
  rw [legalized, lawful.read clean word]
  split
  · rename_i place
    exact lawful.makePlain _ (isPlain_append (List.contains_iff_mem.mp place)).1
  · rename_i noPlace
    split
    · rename_i found read
      obtain ⟨⟨-, notLone, noKeyword⟩, same⟩ := Option.ite_none_right_eq_some.mp read
      rw [← same, if_neg (by simpa using notLone), if_neg (by simpa using noKeyword)]
    · rename_i read
      have notPlain : ¬IsPlain clean := fun isPlain => by simp [isPlain] at read
      split
      · exact lawful.makePlain _ (by decide)
      · rename_i notLone
        have lone : clean ≠ "_" := fun same => notLone (beq_iff_eq.mpr same)
        have keyword : clean ∈ keywords := Decidable.of_not_not fun other => notPlain ⟨word, lone, other⟩
        rw [if_pos (List.contains_iff_mem.mpr keyword)]
        exact lawful.makeRaw clean (mayBeRaw_of_ne word lone noPlace)

end Library

end Code

open Code

/-- Every name has an identifier: no library fails to make it, and it is legal. Names of small letters, digits
and single underscores between them have different identifiers, and handlers that are named after their
operations have such names. -/
theorem legal_ident {library : IdentLibrary} (lawful : library.Lawful) :
    (∀ name, library.ident? name = some (ident name) ∧ Legal (ident name)) ∧
      (∀ first second, Underscored first → Underscored second →
        ident first = ident second → first = second) ∧
      ∀ id kind resource, Underscored (handlerName (some id) kind resource) := by
  refine ⟨fun name => ⟨lawful.ident?_eq name, legal_legalized (isWord_cleaned name)⟩, ?_, ?_⟩
  · intro first second underscored underscored' same
    exact ident_injective_of_underscored underscored underscored' same
  · intro id kind resource
    exact underscored_handlerName kind resource id

/-- A keyword, a path keyword, a digit in front and a lone foreign character. -/
theorem legal_ident_keywords :
    IdentLibrary.strict.Lawful ∧
      (IdentLibrary.strict.ident? "type" = some "r#type" ∧ Legal "r#type") ∧
      (IdentLibrary.strict.ident? "self" = some "self_" ∧ Legal "self_") ∧
      (IdentLibrary.strict.ident? "24h" = some "_24h" ∧ Legal "_24h") ∧
      (IdentLibrary.strict.ident? "é" = some "__" ∧ Legal "__") ∧
      handlerName (some "Self") .get "" = "self" ∧ Underscored "self" ∧
      ∀ other, Underscored other → ident other = "self_" → other = "self" := by
  have raw : ident "type" = "r#type" := by decide
  have place : ident "self" = "self_" := by decide
  have digit : ident "24h" = "_24h" := by decide
  have foreign : ident "é" = "__" := by decide
  have named : handlerName (some "Self") .get "" = "self" := by decide
  obtain ⟨made, apart, handlers⟩ := legal_ident IdentLibrary.lawful_strict
  have underscored : Underscored "self" := named ▸ handlers "Self" .get ""
  refine ⟨IdentLibrary.lawful_strict, raw ▸ made "type", place ▸ made "self", digit ▸ made "24h",
    foreign ▸ made "é", named, underscored, ?_⟩
  intro other underscored' same
  exact apart other "self" underscored' underscored (same.trans place.symm)

end QuerySynth
