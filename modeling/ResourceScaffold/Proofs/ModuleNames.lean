import ResourceScaffold.Proofs.ConstantNames
import ResourceScaffold.Proofs.EntityNames

/-!
# The names of modules

From the name of an entity follow an identifier, under which its modules are imported, and a constant. Every accepted name
gives legal ones (`accepted_name_legal`): it begins with a letter, so its first word does (`exists_wordsOf_of_named`), and what
the words are joined to begins with that letter, in lower or upper case.

A module is imported under the directory and the file of its path (`splitOn_importPath`). The directory is the identifier, which
the check keeps from being a keyword. The file has an underscore in its name, and no keyword has (`IsPlainName.isModuleName`).
-/

namespace ResourceScaffold

open Text

variable {s t : String}

/-! ## Names of modules -/

/-- A name that stands for a module in an import: an identifier, and no keyword. -/
structure IsModuleName (s : String) : Prop where
  identifier : isIdentifier s = true
  noKeyword : s ∉ keywords

/-- A name of the grammar of entities is an identifier. -/
theorem IsPlainName.isIdentifier (h : IsPlainName s.toList) : isIdentifier s = true := by
  obtain ⟨first, rest, chars, alpha, tail⟩ := h
  have ascii : isAscii first = true := isAscii_of_isAlphanum (isAlphanum_of_isAlpha alpha)
  refine isIdentifier_iff.2 ⟨first, rest, chars, ?_, fun c member => ?_⟩
  · rw [isIdentifierStart, if_pos ascii, alpha, Bool.true_or]
  · rcases tail c member with alphanum | rfl
    · rw [isIdentifierContinue, if_pos (isAscii_of_isAlphanum alphanum), alphanum, Bool.true_or]
    · rfl

/-- A plain name followed by letters, digits and underscores is a plain name. -/
theorem IsPlainName.append (hs : IsPlainName s.toList) (ht : ∀ c ∈ t.toList, c.isAlphanum = true ∨ c = '_') :
    IsPlainName (s ++ t).toList := by
  obtain ⟨first, rest, chars, alpha, tail⟩ := hs
  refine ⟨first, rest ++ t.toList, by rw [String.toList_append, chars, List.cons_append], alpha, ?_⟩
  intro c member
  exact (List.mem_append.1 member).elim (tail c) (ht c)

/-- With an underscore in it, a name of the grammar is no keyword. -/
theorem IsPlainName.isModuleName (h : IsPlainName s.toList) (underscore : '_' ∈ s.toList) : IsModuleName s := by
  have without : ∀ keyword ∈ keywords, '_' ∉ keyword.toList := by decide
  exact ⟨h.isIdentifier, fun listed => without s listed underscore⟩

/-! ## Import paths -/

/-- A module in a directory is imported under the name of the directory and what its path is after that. -/
theorem toList_importPath_append {directory : String} (slash : '/' ∉ directory.toList) (rest : String) :
    (importPath (directory ++ "/" ++ (rest ++ ".py"))).toList =
      directory.toList ++ '.' :: rest.toList.map fun c => if c = '/' then '.' else c := by
  rw [← String.append_assoc, toList_importPath, String.toList_append, String.toList_append, List.map_append,
    List.map_append, map_dot_of_not_mem slash, List.append_assoc]
  rfl

/-- The parts of the path under which a module is imported are its directory and its file. -/
theorem splitOn_importPath {directory file : String} (isDirectory : isIdentifier directory = true)
    (isFile : isIdentifier file = true) :
    (importPath (directory ++ "/" ++ (file ++ ".py"))).toList.splitOn '.' = [directory.toList, file.toList] := by
  have slash : IsMark '/' := by decide
  have dot : IsMark '.' := by decide
  have dotted : (importPath (directory ++ "/" ++ (file ++ ".py"))).toList =
      List.intercalate ['.'] [directory.toList, file.toList] := by
    rw [toList_importPath_append (slash.not_mem_identifier isDirectory),
      map_dot_of_not_mem (slash.not_mem_identifier isFile), List.intercalate_cons_cons, List.intercalate_singleton,
      List.append_assoc]
    rfl
  have absent : ∀ part ∈ [directory.toList, file.toList], '.' ∉ part := by
    simp [dot.not_mem_identifier isDirectory, dot.not_mem_identifier isFile]
  rw [dotted, List.splitOn_intercalate _ absent (List.cons_ne_nil _ _)]

/-- The paths of the service, the controller, the wiring and the tests. -/
def ResourceNaming.paths (naming : ResourceNaming) : List String :=
  [servicePath naming.entityName, controllerPath naming.entityName, naming.modulePath, testPath naming.entityName]

/-- The names of the files at these paths, without the suffix of modules. -/
def moduleFiles (entityName : String) : List String :=
  [entityName ++ "_service", entityName ++ "_controller", entityName ++ "_module", "test_" ++ entityName ++ "_controller"]

/-- The files beside the class files are the module names with their extension. -/
theorem resourceFiles_eq_map (entityName : String) :
    resourceFiles entityName = (moduleFiles entityName).map (· ++ ".py") := by
  simp only [resourceFiles, moduleFiles, List.map_cons, List.map_nil, String.append_assoc]
  rfl

/-- The paths of a derived naming are its directory's files. -/
theorem ResourceNaming.paths_derive (s : String) :
    (derive s).paths =
      (moduleFiles (derive s).entityName).map fun file => (derive s).entityName ++ "/" ++ (file ++ ".py") := by
  simp only [paths, moduleFiles, derive, servicePath, controllerPath, testPath, List.map_cons, List.map_nil,
    String.append_assoc]
  rfl

/-- After an identifier of letters and digits the files have module names. -/
theorem isModuleName_of_mem_moduleFiles (plain : IsPlainName s.toList) (alphanum : ∀ c ∈ s.toList, c.isAlphanum = true)
    {file : String} (listed : file ∈ moduleFiles s) : IsModuleName file := by
  have controller : ∀ c ∈ "_controller".toList, c.isAlphanum = true ∨ c = '_' := by simp
  simp only [moduleFiles, List.mem_cons, List.not_mem_nil, or_false] at listed
  rcases listed with rfl | rfl | rfl | rfl
  · exact (plain.append (by simp)).isModuleName (by simp)
  · exact (plain.append controller).isModuleName (by simp)
  · exact (plain.append (by simp)).isModuleName (by simp)
  · have test : IsPlainName "test_".toList := ⟨'t', "est_".toList, rfl, rfl, by simp⟩
    exact ((test.append fun c member => .inl (alphanum c member)).append controller).isModuleName (by simp)

/-! ## Accepted names -/

section

variable (named : checkEntityName (.text s) = .ok ())
include named

/-- The first word of an accepted name begins with a small letter. -/
theorem exists_wordsOf_of_named :
    ∃ c word words, wordsOf s.toList = (c :: word) :: words ∧ c.isLower = true := by
  have word := isEntityWord_of_checkEntityName named
  cases chars : s.toList with
  | nil =>
      rw [chars] at word
      cases word
  | cons c rest =>
      rw [chars, isEntityWord, Bool.and_eq_true] at word
      have alphanum : c.isAlphanum = true := isAlphanum_of_isAlpha word.1
      obtain ⟨run, runs, words⟩ := exists_wordsOf alphanum rest
      refine ⟨c.toLower, run, runs, words, ?_⟩
      exact forall_ascii (p := fun c => c.isAlpha = true → c.toLower.isLower = true) (by decide)
        (isAscii_of_isAlphanum alphanum) word.1

/-- The identifier of an accepted name begins with a small letter. -/
theorem exists_entityName_of_named :
    ∃ first rest, (ResourceNaming.derive s).entityName.toList = first :: rest ∧ first.isLower = true ∧
      ∀ c ∈ rest, c.isAlphanum = true := by
  obtain ⟨c, word, words, same, lower⟩ := exists_wordsOf_of_named named
  have chars : (ResourceNaming.derive s).entityName.toList = c :: (word ++ words.flatMap capitalizeChars) := by
    rw [ResourceNaming.derive, camelCase, String.toList_ofList, same, joinCamel, List.cons_append]
  refine ⟨c, _, chars, lower, fun d member => isAlphanum_of_mem_identifier named ?_⟩
  rw [chars]
  exact List.mem_cons_of_mem _ member

/-- The identifier of an accepted name is a module name and of the grammar of entities. -/
theorem isModuleName_entityName :
    IsModuleName (ResourceNaming.derive s).entityName ∧ IsPlainName (ResourceNaming.derive s).entityName.toList := by
  obtain ⟨first, rest, chars, lower, alphanum⟩ := exists_entityName_of_named named
  have alpha : first.isAlpha = true := by
    show (first.isUpper || first.isLower) = true
    rw [lower, Bool.or_true]
  have plain : IsPlainName (ResourceNaming.derive s).entityName.toList :=
    ⟨first, rest, chars, alpha, fun c member => .inl (alphanum c member)⟩
  obtain ⟨-, -, noKeyword, -⟩ := (checkEntityName_text s).1.1 named
  exact ⟨⟨plain.isIdentifier, noKeyword⟩, plain⟩

/-- The words of an accepted name in upper case begin with a capital. -/
theorem isPlainName_upper_snakeCase : IsPlainName (upper (snakeCase s)).toList := by
  have name := isNameChar_of_isEntityWord (isEntityWord_of_checkEntityName named)
  obtain ⟨c, word, words, same, lower⟩ := exists_wordsOf_of_named named
  have joined : IsJoined (snakeCase s).toList := by
    rw [snakeCase, String.toList_ofList]
    exact isJoined_wordsOf name (by rw [same]; exact List.cons_ne_nil _ _)
  have chars : ∃ rest, (snakeCase s).toList = c :: rest := by
    rw [snakeCase, String.toList_ofList, same]
    cases words with
    | nil => exact ⟨word, by rw [List.intercalate_singleton]⟩
    | cons next words => exact ⟨_, by rw [List.intercalate_cons_cons, List.cons_append, List.cons_append]⟩
  obtain ⟨rest, chars⟩ := chars
  have ascii : isAscii c = true := isAscii_of_isAlphanum (isAlphanum_of_isLower lower)
  have raised := joined.upperChars.letters
  have first : upperChars (snakeCase s).toList = c.toUpper :: upperChars rest := by
    rw [chars, upperChars, List.flatMap_cons, upperChar, if_pos ascii, List.singleton_append, ← upperChars]
  rw [first] at raised
  refine ⟨c.toUpper, upperChars rest, ?_, ?_, fun d member => raised d (List.mem_cons_of_mem _ member)⟩
  · rw [upper, String.toList_ofList, first]
  · exact forall_ascii (p := fun c => c.isLower = true → c.toUpper.isAlpha = true) (by decide) ascii lower

end

/-- What follows from an accepted name can stand in code: the identifier is a small letter with letters and digits after it and no
keyword, the parts of the paths under which the modules are imported are identifiers and no keywords, and the name of the constant
of the controller is an identifier. -/
theorem accepted_name_legal {name : Value} (accepted : checkEntityName name = .ok ()) :
    ∃ s, name = .text s ∧
      (∃ first rest, (ResourceNaming.derive s).entityName.toList = first :: rest ∧ first.isLower = true ∧
        ∀ c ∈ rest, c.isAlphanum = true) ∧
      (ResourceNaming.derive s).entityName ∉ keywords ∧
      (∀ path ∈ (ResourceNaming.derive s).paths, ∀ part ∈ (importPath path).toList.splitOn '.',
        isIdentifier (String.ofList part) = true ∧ String.ofList part ∉ keywords) ∧
      isIdentifier (upper (snakeCase s) ++ "_SELECT") = true := by
  obtain ⟨s, rfl⟩ := exists_text_of_checkEntityName accepted
  obtain ⟨entityName, plain⟩ := isModuleName_entityName accepted
  refine ⟨s, rfl, exists_entityName_of_named accepted, entityName.noKeyword, ?_, ?_⟩
  · intro path listed part inPath
    rw [ResourceNaming.paths_derive] at listed
    obtain ⟨file, isFile, rfl⟩ := List.mem_map.1 listed
    have fileName := isModuleName_of_mem_moduleFiles plain (fun c => isAlphanum_of_mem_identifier accepted) isFile
    rw [splitOn_importPath entityName.identifier fileName.identifier] at inPath
    simp only [List.mem_cons, List.not_mem_nil, or_false] at inPath
    rcases inPath with rfl | rfl <;> rw [String.ofList_toList]
    · exact ⟨entityName.identifier, entityName.noKeyword⟩
    · exact ⟨fileName.identifier, fileName.noKeyword⟩
  · exact ((isPlainName_upper_snakeCase accepted).append (by simp)).isIdentifier

/-- A name with a run of capitals, a digit and more underscores than its words need. -/
theorem http_v2_legal : checkEntityName (.text "HTTP__V2_") = .ok () ∧
    (ResourceNaming.derive "HTTP__V2_").entityName = "httpV2" ∧
    (∀ path ∈ (ResourceNaming.derive "HTTP__V2_").paths, ∀ part ∈ (importPath path).toList.splitOn '.',
      isIdentifier (String.ofList part) = true ∧ String.ofList part ∉ keywords) ∧
    isIdentifier (upper (snakeCase "HTTP__V2_") ++ "_SELECT") = true := by
  have accepted : checkEntityName (.text "HTTP__V2_") = .ok () := rfl
  obtain ⟨s, same, -, -, parts, constant⟩ := accepted_name_legal accepted
  cases same
  exact ⟨accepted, rfl, parts, constant⟩

end ResourceScaffold
