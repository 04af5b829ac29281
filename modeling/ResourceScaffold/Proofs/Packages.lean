import ResourceScaffold.Proofs.Bindings
import ResourceScaffold.Proofs.ModuleNames
import ResourceScaffold.Proofs.WordBoundaries

/-!
# The packages of generated modules

With the directory of the generated files on the path for imports, a directory in it is a package, and it comes before a library
of its name. The modules of an entity lie in the package that has its identifier as its name (`Resource.Of.topPackage_eq`), so an
entity can hide a library that the generated modules import from.

* `Resource.Of.loads_iff`: the libraries that a module imports from follow from its kind; only controllers differ, by the
  library of dates.
* `camelCase_eq_iff`: the identifier of an accepted name is a word of small letters iff this is the only word of the name.
* `generate_hides_no_library_iff`: the packages of a generation hide no library that its modules import from iff no entity has
  the name of one of seven libraries as its only word. For the library of enumerations it matters whether there are any.

The check of entity names does not keep these words out. Of the seven it refuses `datetime` in small letters, which it has among
the names that the modules import, and no other spelling (`Schema.json_hides`).
-/

namespace ResourceScaffold

open Code

/-! ## Libraries -/

/-- The module imports a name from the library. -/
def Code.SourceModule.Loads (m : SourceModule) (library : String) : Prop :=
  ∃ name, (some (.library library), name) ∈ m.bindings

/-- The libraries that a module of a kind imports from. A controller may need the library of dates too. -/
def Part.libraries : Part → List String
  | dataClass _ => ["__future__", "datetime", "typing", "pydantic"]
  | enumeration => ["enum"]
  | service => ["typing"]
  | controller => ["json", "typing", "fastapi", "pydantic"]
  | wiring => ["typing", "fastapi"]
  | tests => ["unittest.mock", "fastapi", "fastapi.testclient"]

section loads

variable {d : Descriptor} {imports : List ClassImport} {filters : List Filter} {entityName library : String}

/-- The module of a class loads the libraries of its kind. -/
theorem Descriptor.loads_moduleWith_iff (generated : ∀ i ∈ imports, i.source.generatedPath?.isSome) (kind : DescriptorKind) :
    (d.moduleWith entityName imports filters).Loads library ↔ library ∈ (Part.dataClass kind).libraries := by
  have opened (deferring : Bool) : (∃ name, (some (Origin.library library), name) ∈
      (libraryImports deferring).flatMap Statement.bindings) ↔ library ∈ (Part.dataClass kind).libraries := by
    cases deferring <;> simp [libraryImports, Import.bindings, Part.libraries, exists_or]
  rw [← opened (!(deferredImports imports).isEmpty)]
  refine exists_congr fun name => ?_
  rw [mem_bindings_moduleWith]
  refine ⟨?_, .inl⟩
  rintro (bound | ⟨i, listed, taken⟩ | ⟨own, -⟩)
  · exact bound
  · obtain ⟨path, same⟩ := exists_path_of_mem_bindings (generated i listed) taken
    cases same
  · cases own

/-- So does the module of an enumeration. -/
theorem EnumDescriptor.loads_toModule_iff (d : EnumDescriptor) :
    (d.toModule entityName).Loads library ↔ library ∈ Part.enumeration.libraries := by
  simp [SourceModule.Loads, SourceModule.bindings, toModule, Import.bindings, Part.libraries]

/-- So does the module of a service. -/
theorem loads_serviceModule_iff (entityName entityType : String) :
    (serviceModule entityName entityType).Loads library ↔ library ∈ Part.service.libraries := by
  simp [SourceModule.Loads, SourceModule.bindings, serviceModule, Import.bindings, Part.libraries, exists_or]

/-- A controller loads the libraries of its kind, and that of dates if its key is a date. -/
theorem Controller.loads_moduleWith_iff (c : Controller) (endpoints : List Endpoint) :
    (c.moduleWith endpoints).Loads library ↔
      library ∈ Part.controller.libraries ∨ c.keyIsDate = true ∧ library = "datetime" := by
  have own : (∃ name, (some (Origin.library library), name) ∈ c.ownBindings endpoints) ↔
      library ∈ Part.controller.libraries ∨ c.keyIsDate = true ∧ library = "datetime" := by
    cases date : c.keyIsDate with
    | false => simp [ownBindings, date, Part.libraries, exists_or]
    | true =>
        simp [ownBindings, date, Part.libraries, exists_or]
        tauto
  rw [← own]
  refine exists_congr fun name => ?_
  rw [mem_bindings]
  refine ⟨?_, .inr⟩
  rintro (⟨i, listed, taken⟩ | bound)
  · have generated : i.generatedPath?.isSome := by
      rcases List.mem_cons.1 listed with rfl | isClass
      · rfl
      · exact classImports_generated isClass
    obtain ⟨path, same⟩ := exists_path_of_mem_bindings generated taken
    cases same
  · exact bound

/-- The wiring loads the libraries of its kind. -/
theorem loads_wiringModule_iff (path entityType service controller : String) :
    (wiringModule path entityType service controller).Loads library ↔ library ∈ Part.wiring.libraries := by
  simp [SourceModule.Loads, SourceModule.bindings, wiringModule, Import.bindings, Part.libraries, exists_or]

/-- So do the tests. -/
theorem TestPlan.loads_moduleWith_iff (plan : TestPlan) (resource entityName entityType service wiring : String) :
    (plan.moduleWith resource entityName entityType service wiring).Loads library ↔ library ∈ Part.tests.libraries := by
  have functions (name : String) (body : List String) :
      (testFunction name body).flatMap Statement.bindings = [(none, name)] := rfl
  unfold SourceModule.Loads SourceModule.bindings moduleWith
  cases plan.key <;>
    simp [recordTests, functions, Import.bindings, Part.libraries, exists_or]

end loads

namespace Resource

variable {schema : Schema} {naming : NamingStrategy} {classes : Table Descriptor} {byName : Table Entity} {e : Entity}
  {r : Resource} {m : SourceModule} {part : Part} {library : String}

/-- A module imports from the libraries of its kind, and a controller with a date as its key also from the library of dates. -/
theorem Of.loads_iff (h : Of schema naming classes byName e r) (hasPart : r.HasPart naming part m) :
    m.Loads library ↔ library ∈ part.libraries ∨
      part = .controller ∧ r.controller.keyIsDate = true ∧ library = "datetime" := by
  cases hasPart with
  | @dataClass d _ listed made =>
      obtain ⟨imports, filters, importsMade, -, rfl⟩ := Descriptor.toModule_eq_ok.1 made
      rw [Descriptor.loads_moduleWith_iff (fun i => d.classImports_generated importsMade) d.kind]
      simp
  | enumeration =>
      rw [EnumDescriptor.loads_toModule_iff]
      simp
  | service =>
      rw [service, loads_serviceModule_iff]
      simp
  | controller =>
      obtain ⟨endpoints, -, made⟩ := Controller.toModule_eq_ok.1 h.controllerModule
      rw [made, Controller.loads_moduleWith_iff]
      simp
  | wiring =>
      rw [wiring, loads_wiringModule_iff]
      simp
  | tests =>
      obtain ⟨plan, -, made⟩ := testModule_eq_ok.1 h.tests
      rw [made, TestPlan.loads_moduleWith_iff]
      simp

end Resource

/-- The libraries that the modules of every entity import from. -/
def commonLibraries : List String :=
  ["__future__", "datetime", "fastapi", "fastapi.testclient", "json", "pydantic", "typing", "unittest.mock"]

namespace Schema.Generated

variable {schema : Schema} {naming : NamingStrategy} {classes : Table Descriptor} {byName : Table Entity}
  {rs : List Resource} {library : String}

/-- The modules of a batch with an entity import from the common libraries, and from that of enumerations if the batch has any. -/
theorem exists_loads_iff (h : schema.Generated naming classes byName rs) :
    (∃ r ∈ rs, ∃ part m, r.HasPart naming part m ∧ m.Loads library) ↔
      ∃ e ∈ schema.entities, library ∈ commonLibraries ∨ library = "enum" ∧ e.enumFields ≠ [] := by
  constructor
  · rintro ⟨r, listed, part, m, hasPart, loads⟩
    obtain ⟨e, member, of⟩ := h.owner listed
    refine ⟨e, member, ?_⟩
    rcases (of.loads_iff hasPart).1 loads with known | ⟨-, -, rfl⟩
    · cases hasPart with
      | enumeration inResource =>
          refine .inr ⟨by simpa [Part.libraries] using known, ?_⟩
          obtain ⟨f, field, -⟩ := exists_mem_of_mapM_eq_ok of.enumerations inResource
          exact List.ne_nil_of_mem field
      | dataClass | service | controller | wiring | tests =>
          left
          simp only [Part.libraries, List.mem_cons, List.not_mem_nil, or_false] at known
          simp only [commonLibraries, List.mem_cons, List.not_mem_nil, or_false]
          tauto
    · exact .inl (by decide)
  · rintro ⟨e, member, known⟩
    obtain ⟨r, listed, of⟩ := h.resource member
    have loads {part : Part} {m : SourceModule} (hasPart : r.HasPart naming part m) (inPart : library ∈ part.libraries) :
        ∃ r ∈ rs, ∃ part m, r.HasPart naming part m ∧ m.Loads library :=
      ⟨r, listed, part, m, hasPart, (of.loads_iff hasPart).2 (.inl inPart)⟩
    rcases known with common | ⟨rfl, some⟩
    · have placed : library ∈ (Part.dataClass r.read.kind).libraries ∨ library ∈ Part.controller.libraries ∨
          library ∈ Part.tests.libraries := by
        simp only [commonLibraries, List.mem_cons, List.not_mem_nil, or_false] at common
        simp only [Part.libraries, List.mem_cons, List.not_mem_nil, or_false]
        tauto
      rcases placed with inClass | inController | inTests
      · exact loads (.dataClass List.mem_cons_self of.readModule) inClass
      · exact loads .controller inController
      · exact loads .tests inTests
    · obtain ⟨f, field⟩ := List.exists_mem_of_ne_nil _ some
      obtain ⟨d, inResource, -⟩ := mem_results_of_mapM_eq_ok of.enumerations field
      exact loads (.enumeration inResource) (by decide)

end Schema.Generated

/-! ## Packages -/

/-- The package in which a module lies: the first part of the path under which it is imported. -/
def topPackage (dotted : String) : String :=
  String.ofList (dotted.toList.takeWhile (· != '.'))

/-- A module in a directory without dots lies in the package of that name. -/
theorem topPackage_importPath {directory : String} (slash : '/' ∉ directory.toList) (dot : '.' ∉ directory.toList)
    (rest : String) : topPackage (importPath (directory ++ "/" ++ (rest ++ ".py"))) = directory := by
  have before : ∀ c ∈ directory.toList, (c != '.') = true := fun c member => bne_iff_ne.2 fun same => dot (same ▸ member)
  rw [topPackage, toList_importPath_append slash, List.takeWhile_append_of_pos before,
    List.takeWhile_cons_of_neg (by decide), List.append_nil, String.ofList_toList]

namespace Resource

variable {schema : Schema} {classes : Table Descriptor} {byName : Table Entity} {e : Entity} {r : Resource}
  {m : SourceModule}

/-- The modules of an entity lie in the package of its identifier. -/
theorem Of.topPackage_eq (h : Of schema ResourceNaming.derive classes byName e r)
    (named : checkEntityName e.name = .ok ()) (member : m ∈ r.block ResourceNaming.derive ++ [r.readModule]) :
    topPackage (importPath m.path) = r.identifier ResourceNaming.derive := by
  have dot : '.' ∉ (r.identifier ResourceNaming.derive).toList := fun inside =>
    absurd (isAlphanum_of_mem_identifier (h.name ▸ named) inside) (by decide)
  have path : ∃ rest, m.path = r.identifier ResourceNaming.derive ++ "/" ++ (rest ++ ".py") := by
    rcases List.mem_append.1 (h.paths_perm.subset (List.mem_map_of_mem member)) with isClass | other
    · obtain ⟨name, -, path⟩ := List.mem_map.1 isClass
      have base : "/base/" = "/" ++ "base/" := rfl
      exact ⟨"base/" ++ name, by rw [← path, classPath, base]; simp only [String.append_assoc]⟩
    · obtain ⟨file, isFile, path⟩ := List.mem_map.1 other
      rw [resourceFiles_eq_map] at isFile
      obtain ⟨rest, -, rfl⟩ := List.mem_map.1 isFile
      exact ⟨rest, path.symm⟩
  obtain ⟨rest, path⟩ := path
  rw [path, topPackage_importPath (h.slash_not_mem named) dot]

end Resource

/-- The identifier of an accepted name is a word of small letters iff this is the only word of the name. -/
theorem camelCase_eq_iff {s word : String} (named : checkEntityName (.text s) = .ok ())
    (small : ∀ c ∈ word.toList, c.isLower = true) : Text.camelCase s = word ↔ Text.words s = [word] := by
  obtain ⟨some, areWords⟩ := isWord_of_mem_wordsOf named
  obtain ⟨first, rest, words⟩ := List.exists_cons_of_ne_nil some
  rw [Text.camelCase, Text.words, words, Text.joinCamel, List.map_cons]
  constructor
  · intro same
    have chars : first ++ rest.flatMap Text.capitalizeChars = word.toList := by
      rw [← same, String.toList_ofList]
    cases rest with
    | nil =>
        rw [List.flatMap_nil, List.append_nil] at chars
        rw [chars, String.ofList_toList, List.map_nil]
    | cons next rest =>
        -- a second word would begin with a capital or a digit
        obtain ⟨nonempty, notSmall⟩ :=
          (areWords next (words ▸ List.mem_cons_of_mem _ List.mem_cons_self)).head_capitalizeChars
        obtain ⟨c, tail, capitalized⟩ := List.exists_cons_of_ne_nil nonempty
        have lower := small c (chars ▸ by simp [capitalized])
        rw [capitalized, List.getElem?_cons_zero, Option.any_some, lower] at notSmall
        cases notSmall
  · intro same
    obtain ⟨isWord, none⟩ := List.cons.inj same
    rw [List.map_eq_nil_iff.1 none, List.flatMap_nil, List.append_nil, isWord]

/-! ## Libraries that are hidden -/

/-- The module lies in the package of a library that the other one imports from. -/
def Code.SourceModule.Hides (m m' : SourceModule) : Prop :=
  ∃ library, m'.Loads library ∧ topPackage (importPath m.path) = topPackage library

/-- The packages of the common libraries, without the one that has underscores in its name. -/
def commonPackages : List String :=
  ["datetime", "fastapi", "json", "pydantic", "typing", "unittest"]

/-- The top packages of the libraries that every resource loads. -/
theorem map_topPackage_commonLibraries : commonLibraries.map topPackage =
    ["__future__", "datetime", "fastapi", "fastapi", "json", "pydantic", "typing", "unittest"] := rfl

/-- They are that of future features and the common packages. -/
theorem topPackage_of_mem_commonLibraries {library : String} (h : library ∈ commonLibraries) :
    topPackage library = "__future__" ∨ topPackage library ∈ commonPackages := by
  have all : ∀ package ∈ commonLibraries.map topPackage, package = "__future__" ∨ package ∈ commonPackages := by
    rw [map_topPackage_commonLibraries]
    decide
  exact all _ (List.mem_map_of_mem h)

/-- Each common package is the top one of a library. -/
theorem exists_commonLibrary {package : String} (h : package ∈ commonPackages) :
    ∃ library ∈ commonLibraries, topPackage library = package := by
  have all : ∀ package ∈ commonPackages, package ∈ commonLibraries.map topPackage := by
    rw [map_topPackage_commonLibraries]
    decide
  exact List.mem_map.1 (all package h)

/-- The names of common packages are in small letters. -/
theorem isLower_of_mem_commonPackages {package : String} (h : package ∈ commonPackages) :
    ∀ c ∈ package.toList, c.isLower = true := by
  have all : ∀ package ∈ commonPackages, package.toList.all Char.isLower = true := by decide
  exact List.all_eq_true.1 (all package h)

/-- The identifier of an accepted name is the package of no common library iff the name has none of these packages as its only
word. -/
theorem camelCase_ne_topPackage_iff {s : String} (named : checkEntityName (.text s) = .ok ()) :
    (∀ library ∈ commonLibraries, Text.camelCase s ≠ topPackage library) ↔
      ∀ package ∈ commonPackages, Text.words s ≠ [package] := by
  constructor
  · intro free package common words
    obtain ⟨library, listed, same⟩ := exists_commonLibrary common
    apply free library listed
    rw [same]
    exact (camelCase_eq_iff named (isLower_of_mem_commonPackages common)).2 words
  · intro free library listed same
    rcases topPackage_of_mem_commonLibraries listed with underscored | common
    · -- the package with underscores is no identifier
      have underscore : '_' ∈ (Text.camelCase s).toList := by
        rw [same, underscored]
        decide
      exact absurd (isAlphanum_of_mem_identifier named underscore) (by decide)
    · exact free _ common ((camelCase_eq_iff named (isLower_of_mem_commonPackages common)).1 same)

namespace Schema.Generated

variable {schema : Schema} {classes : Table Descriptor} {byName : Table Entity} {rs : List Resource}

/-- A module of a batch hides a library from another one iff an entity of the batch has the package of a library from which a
module of the batch imports as its identifier. -/
theorem exists_hides_iff (h : schema.Generated ResourceNaming.derive classes byName rs) :
    (∃ m ∈ rs.flatMap (Resource.block ResourceNaming.derive) ++ rs.map Resource.readModule,
        ∃ m' ∈ rs.flatMap (Resource.block ResourceNaming.derive) ++ rs.map Resource.readModule, m.Hides m') ↔
      ∃ library, (∃ e ∈ schema.entities, library ∈ commonLibraries ∨ library = "enum" ∧ e.enumFields ≠ []) ∧
        ∃ e ∈ schema.entities, e.identifier ResourceNaming.derive = topPackage library := by
  have package {e : Entity} {r : Resource} (member : e ∈ schema.entities)
      (of : Resource.Of schema ResourceNaming.derive classes byName e r) {part : Part} {m : SourceModule}
      (hasPart : r.HasPart ResourceNaming.derive part m) :
      topPackage (importPath m.path) = e.identifier ResourceNaming.derive := by
    have inBlock : m ∈ r.block ResourceNaming.derive ++ [r.readModule] := by
      rw [← of.parts_snd]
      exact List.mem_map_of_mem (of.mem_parts.2 hasPart)
    rw [of.topPackage_eq (h.prepared.named member) inBlock, of.identifier_eq]
  constructor
  · rintro ⟨m, inBatch, m', inBatch', library, loads, same⟩
    obtain ⟨r, listed, part, hasPart⟩ := h.mem_modules.1 inBatch
    obtain ⟨r', listed', part', hasPart'⟩ := h.mem_modules.1 inBatch'
    obtain ⟨e, member, of⟩ := h.owner listed
    refine ⟨library, h.exists_loads_iff.1 ⟨r', listed', part', m', hasPart', loads⟩, e, member, ?_⟩
    rw [← package member of hasPart, same]
  · rintro ⟨library, needed, e, member, same⟩
    obtain ⟨r', listed', part', m', hasPart', loads⟩ := h.exists_loads_iff.2 needed
    obtain ⟨r, listed, of⟩ := h.resource member
    refine ⟨r.service ResourceNaming.derive, h.mem_modules.2 ⟨r, listed, .service, .service⟩, m',
      h.mem_modules.2 ⟨r', listed', part', hasPart'⟩, library, loads, ?_⟩
    rw [package member of .service, same]

end Schema.Generated

/-- The packages of a generation hide no library that its modules import from iff no entity has the name of a package of the
common libraries as its only word, and none that of the library of enumerations if there are enumerations. -/
theorem generate_hides_no_library_iff {schema : Schema} {modules : List SourceModule}
    (h : (schema.generate ResourceNaming.derive).outcome = .ok modules) :
    (∀ m ∈ modules, ∀ m' ∈ modules, ¬ m.Hides m') ↔
      ∀ e ∈ schema.entities, ∀ s, e.name = .text s →
        (∀ package ∈ commonPackages, Text.words s ≠ [package]) ∧
        (Text.words s = ["enum"] → ∀ e' ∈ schema.entities, e'.enumFields = []) := by
  obtain ⟨classes, byName, rs, generated, rfl⟩ := generate_eq_ok h
  have identifier {e : Entity} {s : String} (name : e.name = .text s) :
      e.identifier ResourceNaming.derive = Text.camelCase s := by
    rw [Entity.identifier, name, Value.display_text]
    rfl
  have enum : topPackage "enum" = "enum" := rfl
  constructor
  · intro hidesNone e member s name
    have named : checkEntityName (.text s) = .ok () := name ▸ generated.prepared.named member
    have free (library : String)
        (needed : ∃ e ∈ schema.entities, library ∈ commonLibraries ∨ library = "enum" ∧ e.enumFields ≠ []) :
        Text.camelCase s ≠ topPackage library := by
      intro same
      obtain ⟨m, listed, m', listed', hides⟩ :=
        generated.exists_hides_iff.2 ⟨library, needed, e, member, (identifier name).trans same⟩
      exact hidesNone m listed m' listed' hides
    constructor
    · exact (camelCase_ne_topPackage_iff named).1 fun library listed => free library ⟨e, member, .inl listed⟩
    · intro words e' member'
      by_contra some
      refine free "enum" ⟨e', member', .inr ⟨rfl, some⟩⟩ ?_
      rw [enum]
      exact (camelCase_eq_iff named (by simp)).2 words
  · intro free m listed m' listed' hides
    obtain ⟨library, ⟨e', member', needed⟩, e, member, same⟩ :=
      generated.exists_hides_iff.1 ⟨m, listed, m', listed', hides⟩
    obtain ⟨s, name⟩ := generated.prepared.text member
    have named : checkEntityName (.text s) = .ok () := name ▸ generated.prepared.named member
    obtain ⟨notCommon, notEnum⟩ := free e member s name
    rw [identifier name] at same
    rcases needed with common | ⟨rfl, some⟩
    · exact (camelCase_ne_topPackage_iff named).2 notCommon library common same
    · rw [enum] at same
      exact some (notEnum ((camelCase_eq_iff named (by simp)).1 same) e' member')

/-- A schema with an entity that has the name of a library, in another spelling than the library. -/
def Schema.json : Schema :=
  { entities := [{ name := .text "Json", id := .null, fields := [] }], ids := [] }

/-- The package of the entity hides the library from its own controller. -/
theorem Schema.json_hides : ∃ modules, (json.generate ResourceNaming.derive).outcome = .ok modules ∧
    ((∀ m ∈ modules, ∀ m' ∈ modules, ¬ m.Hides m') ↔
      ∀ e ∈ json.entities, ∀ s, e.name = .text s →
        (∀ package ∈ commonPackages, Text.words s ≠ [package]) ∧
        (Text.words s = ["enum"] → ∀ e' ∈ json.entities, e'.enumFields = [])) ∧
    ∃ m ∈ modules, ∃ m' ∈ modules, m.Hides m' := by
  have returns : (json.generate ResourceNaming.derive).outcome.isOk = true := rfl
  obtain ⟨modules, made⟩ := isOk_iff.1 returns
  have condition := generate_hides_no_library_iff made
  refine ⟨modules, made, condition, ?_⟩
  by_contra none
  have hidesNone : ∀ m ∈ modules, ∀ m' ∈ modules, ¬ m.Hides m' := fun m listed m' listed' hides =>
    none ⟨m, listed, m', listed', hides⟩
  obtain ⟨free, -⟩ := condition.1 hidesNone _ List.mem_cons_self "Json" rfl
  exact free "json" (by decide) rfl

/-- The name that the modules import is reserved, but not its other spellings, which have the same package. -/
example : checkEntityName (.text "datetime") = .error (.ofName (.text "datetime") .reserved) ∧
    checkEntityName (.text "Datetime") = .ok () ∧ Text.words "Datetime" = ["datetime"] :=
  ⟨rfl, rfl, rfl⟩

end ResourceScaffold
