import ResourceScaffold.Files.Path
import ResourceScaffold.Proofs.Paths
import ResourceScaffold.Proofs.Spelling

/-!
# The files of generated modules

The identifier of an accepted entity is a file name (`isFileName_identifier`): its characters are letters and digits, and
there is one, as a name begins with a letter. The paths of the modules of an entity lead from there down through file names
(`Resource.Of.liesIn`), so none of them leads out of the directory of its entity or to that directory itself. The directories
in such a path have no dot in their names and the module has one (`IsModulePath`), so the path of a module never leads through
another one (`IsModulePath.eq_of_prefix`).
-/

namespace ResourceScaffold

open Code

/-! ## File names -/

/-- A name that a directory can hold. -/
structure IsFileName (s : String) : Prop where
  nonempty : s ≠ ""
  notDot : s ≠ "."
  notDots : s ≠ ".."
  noSlash : '/' ∉ s.toList
  noNull : '\x00' ∉ s.toList

/-- The path leads from the directory down through file names, one or more. -/
def LiesIn (directory path : String) : Prop :=
  ∃ names, names ≠ [] ∧ (∀ name ∈ names, IsFileName name) ∧ path = String.intercalate "/" (directory :: names)

instance (s : String) : Decidable (IsFileName s) :=
  decidable_of_iff (s ≠ "" ∧ s ≠ "." ∧ s ≠ ".." ∧ '/' ∉ s.toList ∧ '\x00' ∉ s.toList)
    ⟨fun ⟨nonempty, dot, dots, slash, null⟩ => ⟨nonempty, dot, dots, slash, null⟩,
      fun h => ⟨h.nonempty, h.notDot, h.notDots, h.noSlash, h.noNull⟩⟩

/-- A text with the suffix of modules is a file name if nothing in it is special. -/
theorem isFileName_append_py {s : String} (slash : '/' ∉ s.toList) (null : '\x00' ∉ s.toList) :
    IsFileName (s ++ ".py") := by
  have longer {t : String} (short : t.length < 3) : s ++ ".py" ≠ t := by
    rintro rfl
    rw [String.length_append] at short
    have suffix : ".py".length = 3 := rfl
    omega
  exact ⟨longer (by decide), longer (by decide), longer (by decide), by simpa using slash, by simpa using null⟩

/-- The files of a resource other than classes have file names. -/
theorem isFileName_of_mem_resourceFiles {entityName file : String} (slash : '/' ∉ entityName.toList)
    (null : '\x00' ∉ entityName.toList) (h : file ∈ resourceFiles entityName) : IsFileName file := by
  have suffixed {s : String} (t : String) (slashS : '/' ∉ s.toList) (nullS : '\x00' ∉ s.toList)
      (slashT : '/' ∉ t.toList) (nullT : '\x00' ∉ t.toList) : IsFileName (s ++ (t ++ ".py")) := by
    rw [← String.append_assoc]
    refine isFileName_append_py ?_ ?_ <;> simp only [String.toList_append, List.mem_append, not_or]
    · exact ⟨slashS, slashT⟩
    · exact ⟨nullS, nullT⟩
  simp only [resourceFiles, List.mem_cons, List.not_mem_nil, or_false] at h
  rcases h with rfl | rfl | rfl | rfl
  · exact suffixed "_service" slash null (by decide) (by decide)
  · exact suffixed "_controller" slash null (by decide) (by decide)
  · exact suffixed "_module" slash null (by decide) (by decide)
  · exact suffixed "_controller" (by simpa using slash) (by simpa using null) (by decide) (by decide)

/-! ## Paths of modules -/

/-- The names in the path of a module: directories, without a dot in their names, and the module, with one. -/
structure IsModulePath (names : List String) : Prop where
  fileNames : ∀ name ∈ names, IsFileName name
  directories : ∀ name ∈ names.dropLast, '.' ∉ name.toList
  file : ∃ name ∈ names.getLast?, '.' ∈ name.toList

namespace IsModulePath

variable {names names' : List String}

/-- A module path names at least the module's own file. -/
theorem nonempty (h : IsModulePath names) : names ≠ [] := by
  rintro rfl
  obtain ⟨name, last, -⟩ := h.file
  cases last

/-- The path of a module leads through no other module. -/
theorem eq_of_prefix (h : IsModulePath names) (h' : IsModulePath names') (before : names <+: names') : names = names' := by
  obtain ⟨rest, rfl⟩ := before
  by_cases empty : rest = []
  · rw [empty, List.append_nil]
  · obtain ⟨name, last, dot⟩ := h.file
    refine absurd dot (h'.directories name ?_)
    rw [List.dropLast_append_of_ne_nil empty]
    exact List.mem_append_left _ (List.mem_of_getLast? last)

end IsModulePath

/-- The path of a class file is its three segments, joined. -/
theorem classPath_eq_join (entityName className : String) :
    classPath entityName className = String.intercalate "/" [entityName, "base", className ++ ".py"] := by
  have base : "/base/" = "/" ++ "base" ++ "/" := rfl
  simp only [classPath, base, String.intercalate_cons_cons, String.intercalate_singleton, String.append_assoc]

/-- The three segments of a class file make up a module path. -/
theorem isModulePath_class {entityName className : String} (directory : IsFileName entityName)
    (noDot : '.' ∉ entityName.toList) (file : IsFileName (className ++ ".py")) :
    IsModulePath [entityName, "base", className ++ ".py"] where
  fileNames := by
    simp only [List.forall_mem_cons, List.not_mem_nil, false_imp_iff, implies_true, and_true]
    exact ⟨directory, by decide, file⟩
  directories := by
    simp only [List.dropLast, List.forall_mem_cons, List.not_mem_nil, false_imp_iff, implies_true, and_true]
    exact ⟨noDot, by decide⟩
  file := ⟨_, rfl, by simp⟩

/-- The files beside the class files carry an extension, which no directory does. -/
theorem dot_mem_of_mem_resourceFiles {entityName file : String} (h : file ∈ resourceFiles entityName) :
    '.' ∈ file.toList := by
  simp only [resourceFiles, List.mem_cons, List.not_mem_nil, or_false] at h
  rcases h with rfl | rfl | rfl | rfl <;> simp

/-- The two segments of a file beside the class files make up a module path. -/
theorem isModulePath_file {entityName file : String} (directory : IsFileName entityName)
    (noDot : '.' ∉ entityName.toList) (fileName : IsFileName file) (dot : '.' ∈ file.toList) :
    IsModulePath [entityName, file] where
  fileNames := by
    simp only [List.forall_mem_cons, List.not_mem_nil, false_imp_iff, implies_true, and_true]
    exact ⟨directory, fileName⟩
  directories := by
    simp only [List.dropLast, List.forall_mem_cons, List.not_mem_nil, false_imp_iff, implies_true, and_true]
    exact noDot
  file := ⟨_, rfl, dot⟩

/-! ## Identifiers -/

namespace Text

/-- The first rewrite keeps the first character of its input. -/
theorem exists_markCapitalized (skipping : Bool) (c : Char) (rest : List Char) :
    ∃ others, markCapitalized skipping (c :: rest) = c :: others := by
  unfold markCapitalized
  split
  · next first _ _ _ same =>
      cases same
      split
      · exact ⟨_, rfl⟩
      · split <;> exact ⟨_, rfl⟩
  · exact ⟨rest, rfl⟩

/-- Both rewrites keep the first character of their input. -/
theorem exists_markHumps (c : Char) (rest : List Char) : ∃ others, markHumps (c :: rest) = c :: others := by
  unfold markHumps
  split
  · next same =>
      cases same
      split <;> exact ⟨_, rfl⟩
  · exact ⟨rest, rfl⟩

/-- The first word of a text that begins with a letter or digit begins with it, in lower case. -/
theorem exists_wordsOf {c : Char} (alphanum : c.isAlphanum = true) (rest : List Char) :
    ∃ run runs, wordsOf (c :: rest) = (c.toLower :: run) :: runs := by
  have ascii := isAscii_of_isAlphanum alphanum
  have notSigma : c ≠ 'Σ' := by
    rintro rfl
    cases ascii
  have notDotted : c ≠ 'İ' := by
    rintro rfl
    cases ascii
  have kept : (!isSeparator c.toLower) = true := by
    rw [isSeparator_of_isAlphanum (isAlphanum_toLower alphanum)]
    rfl
  obtain ⟨marked, marksEq⟩ := exists_markCapitalized false c rest
  obtain ⟨humped, humpsEq⟩ := exists_markHumps c marked
  obtain ⟨run, runs, runsEq, -⟩ := exists_runsOf (p := fun c => !isSeparator c) kept
    (lowerFrom (if isCaseIgnorable c then false else isCased c) humped)
  refine ⟨run, runs, ?_⟩
  rw [wordsOf, marksEq, humpsEq, lowerChars, lowerFrom, if_neg notSigma, lowerChar, if_neg notDotted, lowerSimple,
    if_pos ascii, List.singleton_append, runsEq]

/-- A name that begins with a letter has a camelCase form. -/
theorem camelCase_ne_empty {c : Char} {s : String} {rest : List Char} (chars : s.toList = c :: rest)
    (letter : c.isAlpha = true) : camelCase s ≠ "" := by
  obtain ⟨run, runs, words⟩ := exists_wordsOf (isAlphanum_of_isAlpha letter) rest
  intro empty
  have none := congrArg String.toList empty
  rw [camelCase, chars, words, String.toList_ofList, joinCamel] at none
  cases none

end Text

/-- The identifier of an accepted name is a file name. -/
theorem isFileName_identifier {s : String} (h : checkEntityName (.text s) = .ok ()) :
    IsFileName (ResourceNaming.derive s).entityName := by
  have absent {b : Char} (mark : b.isAlphanum = false) : b ∉ (ResourceNaming.derive s).entityName.toList := by
    intro member
    rw [isAlphanum_of_mem_identifier h member] at mark
    cases mark
  have undotted {t : String} (dot : '.' ∈ t.toList) : (ResourceNaming.derive s).entityName ≠ t := by
    rintro rfl
    exact absent (by decide) dot
  have word := isEntityWord_of_checkEntityName h
  cases chars : s.toList with
  | nil =>
      rw [chars] at word
      cases word
  | cons c rest =>
      rw [chars, isEntityWord, Bool.and_eq_true] at word
      exact ⟨Text.camelCase_ne_empty chars word.1, undotted (by decide), undotted (by decide), absent (by decide),
        absent (by decide)⟩

/-! ## Names of classes -/

/-- An accepted entity name holds no mark but the line feed. -/
theorem Text.IsMark.not_mem_entityName {b : Char} (mark : Text.IsMark b) (noFeed : b ≠ '\n') {s : String}
    (h : checkEntityName (.text s) = .ok ()) : b ∉ s.toList := by
  intro member
  have name := isNameChar_of_isEntityWord (isEntityWord_of_checkEntityName h) b member
  have ascii := Text.isAscii_of_isNameChar name
  have inside := mark.notContinue
  rw [Text.isIdentifierContinue, if_pos ascii] at inside
  rw [Text.isNameChar, inside, Bool.false_or, beq_iff_eq] at name
  exact noFeed name

/-- The name of a class of an accepted entity holds no mark but the line feed. -/
theorem Text.IsMark.not_mem_className {b : Char} (mark : Text.IsMark b) (noFeed : b ≠ '\n') {ids : Entries} {e : Entity}
    {d : Descriptor} (h : d.IsClassOf ids e) {s : String} (name : e.name = .text s)
    (named : checkEntityName (.text s) = .ok ()) : b ∉ d.name.display.toList := by
  have suffix : b ∉ d.kind.suffix.toList := by
    cases d.kind with
    | entity => simp [DescriptorKind.suffix]
    | createInput | updateInput | whereInput | whereUniqueInput => exact mark.not_mem_identifier (by decide)
  rw [h.name_eq name, Value.display_text, String.toList_append, List.mem_append, not_or]
  exact ⟨mark.not_mem_entityName noFeed named, suffix⟩

namespace Resource

variable {schema : Schema} {classes : Table Descriptor} {byName : Table Entity} {e : Entity} {r : Resource}

/-- The names of the enumerations of an entity hold no mark but the line feed. -/
theorem Of.not_mem_enumeration {naming : NamingStrategy} {b : Char} (mark : Text.IsMark b) (noFeed : b ≠ '\n')
    (h : Of schema naming classes byName e r) (named : checkEntityName e.name = .ok ()) {d : EnumDescriptor}
    (listed : d ∈ r.enumerations) : b ∉ d.name.display.toList := by
  obtain ⟨f, field, made⟩ := exists_mem_of_mapM_eq_ok h.enumerations listed
  obtain ⟨name, text, usable, -⟩ :=
    checkFieldName_eq_ok (checkFieldName_of_entityDescriptor h.read (List.mem_filter.1 field).1)
  rw [h.name] at named
  exact mark.not_mem_enumName h.name (mark.not_mem_entityName noFeed named) text (mark.not_mem_identifier usable)
    (enumName_of_ofField made)

/-- The names of the classes of an entity hold no mark but the line feed. -/
theorem Of.not_mem_classNames {naming : NamingStrategy} {b : Char} (mark : Text.IsMark b) (noFeed : b ≠ '\n')
    (h : Of schema naming classes byName e r) (named : checkEntityName e.name = .ok ()) {name : String}
    (listed : name ∈ r.classNames) : b ∉ name.toList := by
  rcases List.mem_append.1 listed with isClass | isEnumeration
  · obtain ⟨d, member, rfl⟩ := List.mem_map.1 isClass
    exact mark.not_mem_className noFeed (h.isClassOf member) h.name (h.name ▸ named)
  · obtain ⟨d, member, rfl⟩ := List.mem_map.1 isEnumeration
    exact h.not_mem_enumeration mark noFeed named member

/-- The path of each module of an accepted entity leads through the directory of the entity. -/
theorem Of.exists_modulePath (h : Of schema ResourceNaming.derive classes byName e r)
    (named : checkEntityName e.name = .ok ()) {m : SourceModule}
    (member : m ∈ r.block ResourceNaming.derive ++ [r.readModule]) :
    ∃ names, names ≠ [] ∧ IsModulePath (r.identifier ResourceNaming.derive :: names) ∧
      m.path = String.intercalate "/" (r.identifier ResourceNaming.derive :: names) := by
  have accepted : checkEntityName (.text r.name) = .ok () := h.name ▸ named
  have identifier := isFileName_identifier accepted
  have noDot : '.' ∉ (r.identifier ResourceNaming.derive).toList := fun dot =>
    absurd (isAlphanum_of_mem_identifier accepted dot) (by decide)
  rcases List.mem_append.1 (h.paths_perm.subset (List.mem_map_of_mem member)) with isClass | other
  · obtain ⟨name, listed, path⟩ := List.mem_map.1 isClass
    have file : IsFileName (name ++ ".py") :=
      isFileName_append_py (h.not_mem_classNames (by decide) (by decide) named listed)
        (h.not_mem_classNames (by decide) (by decide) named listed)
    exact ⟨["base", name ++ ".py"], by simp, isModulePath_class identifier noDot file, path ▸ classPath_eq_join _ _⟩
  · obtain ⟨file, listed, path⟩ := List.mem_map.1 other
    have fileName := isFileName_of_mem_resourceFiles identifier.noSlash identifier.noNull listed
    refine ⟨[file], by simp, isModulePath_file identifier noDot fileName (dot_mem_of_mem_resourceFiles listed), ?_⟩
    rw [← path, String.intercalate_cons_cons, String.intercalate_singleton]

/-- Every module of an accepted entity lies in the directory of the entity. -/
theorem Of.liesIn (h : Of schema ResourceNaming.derive classes byName e r) (named : checkEntityName e.name = .ok ())
    {m : SourceModule} (member : m ∈ r.block ResourceNaming.derive ++ [r.readModule]) :
    LiesIn (r.identifier ResourceNaming.derive) m.path := by
  obtain ⟨names, nonempty, modulePath, path⟩ := h.exists_modulePath named member
  exact ⟨names, nonempty, fun name listed => modulePath.fileNames name (List.mem_cons_of_mem _ listed), path⟩

end Resource

end ResourceScaffold
