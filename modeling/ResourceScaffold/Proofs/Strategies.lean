import ResourceScaffold.Proofs.Dependencies

/-!
# Dependencies under other names than the default ones

A batch can be generated with any naming strategy, and the modules of an entity stand under the identifier that the strategy
gives it. An import of a class looks for it under the camelCase form of the name of its entity, whatever the strategy is.

* Every dependency is the path of a module of the batch, or that of a class under the camelCase form
  (`Schema.Generated.dependency_cases`).
* Each class of the batch is, under the camelCase form, a dependency of some module (`Schema.Generated.exists_dependency`).
* So all dependencies are paths of generated modules iff each class of each entity is found under the camelCase form of the
  name of the entity (`generate_dependencies_resolve_iff`). With identifiers of that form they are; with others they can be
  missing (`Schema.renamedPost_dependencies`).
-/

namespace ResourceScaffold

open Code

/-! ## Lines of imports -/

/-- The line of the import of a class whose owner is one segment. -/
theorem Import.toList_line_ofClass {owner : String} (segment : '/' ∉ owner.toList) (name : String) :
    (Import.ofClass owner name).line.toList = "from ".toList ++ (owner.toList ++ '.' :: ("base.".toList ++
      ((name.toList.map fun c => if c = '/' then '.' else c) ++ (" import ".toList ++ name.toList)))) := by
  have only : String.intercalate ", " [name] = name := rfl
  simp only [Import.ofClass, Import.line, Origin.dotted, only, classPath, String.toList_append, toList_importPath,
    List.map_append, map_dot_of_not_mem segment]
  simp

/-- The line of an import tells which class of which owner is imported. -/
theorem Import.ofClass_inj_of_line {a b name name' : String} (plainA : '.' ∉ a.toList ∧ '/' ∉ a.toList)
    (plainB : '.' ∉ b.toList ∧ '/' ∉ b.toList) (same : (Import.ofClass a name).line = (Import.ofClass b name').line) :
    a = b ∧ name = name' := by
  have chars := congrArg String.toList same
  rw [toList_line_ofClass plainA.2, toList_line_ofClass plainB.2] at chars
  obtain ⟨owners, rest⟩ := eq_and_eq_of_append_cons plainA.1 plainB.1 (List.append_cancel_left chars)
  have names := List.append_cancel_left rest
  -- the name stands in the line twice, so both names have one length
  have lengths := congrArg List.length names
  simp only [List.length_append, List.length_map] at lengths
  obtain ⟨-, tails⟩ := List.append_inj names (by rw [List.length_map, List.length_map]; omega)
  exact ⟨String.toList_inj.1 owners, String.toList_inj.1 (List.append_cancel_left tails)⟩

/-! ## Classes and their paths -/

/-- All dependencies of the modules are paths of modules among them. -/
def DependenciesResolve (modules : List SourceModule) : Prop :=
  ∀ m ∈ modules, ∀ path ∈ m.dependencies, ∃ m' ∈ modules, m'.path = path

variable {schema : Schema} {naming : NamingStrategy} {classes : Table Descriptor} {byName : Table Entity}
  {rs : List Resource} {e : Entity} {r : Resource} {d : Descriptor} {part : Part} {m : SourceModule} {name : String}

namespace Resource

/-- The names of the classes are those of the parts that have a class. -/
theorem mem_classNames : name ∈ r.classNames ↔ ∃ part, r.HasClass part name := by
  rw [classNames, List.mem_append, List.mem_map, List.mem_map]
  constructor
  · rintro (⟨d, listed, rfl⟩ | ⟨d, listed, rfl⟩)
    · exact ⟨_, .dataClass listed⟩
    · exact ⟨_, .enumeration listed⟩
  · rintro ⟨part, hasClass⟩
    cases hasClass with
    | dataClass listed => exact .inl ⟨_, listed, rfl⟩
    | enumeration listed => exact .inr ⟨_, listed, rfl⟩

/-- The module of each class stands under the identifier of the resource. -/
theorem Of.exists_module (h : Of schema naming classes byName e r) (listed : name ∈ r.classNames) :
    ∃ part m, r.HasPart naming part m ∧ m.path = classPath (r.identifier naming) name := by
  obtain ⟨part, hasClass⟩ := mem_classNames.1 listed
  obtain ⟨m, hasPart, path, -⟩ := h.provides hasClass
  exact ⟨part, m, hasPart, (Option.some.inj path).symm⟩

end Resource

/-! ## References that are imported -/

/-- What agrees with a text as a key is that text. -/
theorem eq_of_sameKey_text {v w : Value} {s : String} (text : w = .text s) (same : v.sameKey w = true) : v = w := by
  subst text
  rw [Value.sameKey, Bool.and_eq_true, beq_iff_eq, Value.key?_text] at same
  exact Value.eq_text_of_key? same.2

/-- The class that creates refers to each enumeration of its entity. -/
theorem createDescriptor_reference {ids : Entries} {f : Field} {enumeration : Value}
    (made : createDescriptor e ids = .ok d) (member : f ∈ e.fields) (enumerates : f.isEnumeration = true)
    (named : enumName e f = .ok enumeration) :
    ∃ p ∈ d.properties, p.reference = some { name := enumeration, kind := .enumeration, entity := e.name } := by
  obtain ⟨properties, steps, rest⟩ := bind_eq_ok.1 made
  cases rest
  obtain ⟨p, inClass, written⟩ :=
    mem_results_of_mapM_eq_ok steps (List.mem_filter.2 ⟨member, Field.isEditable_of_isEnumeration enumerates⟩)
  refine ⟨p, inClass, ?_⟩
  obtain ⟨many, kind⟩ := Field.exists_kind_of_isEnumeration enumerates
  cases writeProperty_gives written with
  | scalar other | filter other | relation other => cases kind.symm.trans other
  | enumeration _ named' =>
      rw [named] at named'
      cases named'
      rfl

/-- A reference of a class to another generated one is imported, or another reference is with the same line. -/
theorem Descriptor.exists_import {imports : List ClassImport} (made : d.classImports = .ok imports) {ref : Reference}
    (inClass : ref ∈ d.references) (other : ref.kind ≠ .filter) {owner : String} (entity : ref.entity = .text owner) :
    ∃ i ∈ imports, i.deferred = ref.kind.isDeferred ∧
      i.source.line = (Import.ofClass (Text.camelCase owner) ref.name.display).line := by
  obtain ⟨all, steps, distinct⟩ := bind_eq_ok.1 made
  cases distinct
  obtain ⟨i, listed, step⟩ := mem_results_of_mapM_eq_ok steps (List.mem_filter.2 ⟨inClass, by simpa using other⟩)
  rw [Reference.classImport, entity] at step
  cases step
  obtain ⟨j, kept, same⟩ := exists_mem_distinctBy (fun i : ClassImport => (i.deferred, i.source.line)) listed
  exact ⟨j, kept, Prod.mk.inj same⟩

namespace Schema.Generated

/-- The camelCase form of the name of a resource is plain. -/
theorem plain_camelCase (h : schema.Generated naming classes byName rs) (member : r ∈ rs) :
    '.' ∉ (Text.camelCase r.name).toList ∧ '/' ∉ (Text.camelCase r.name).toList := by
  obtain ⟨e, listed, of⟩ := h.owner member
  have named := h.prepared.named listed
  rw [of.name] at named
  constructor
  · intro dot
    exact absurd (isAlphanum_of_mem_identifier named dot) (by decide)
  · intro slash
    exact absurd (isAlphanum_of_mem_identifier named slash) (by decide)

/-! ## What the dependencies are -/

/-- A dependency is the path of a module of the batch, or that of a class under the camelCase form of its entity. -/
theorem dependency_cases (h : schema.Generated naming classes byName rs) (member : r ∈ rs)
    (hasPart : r.HasPart naming part m) {path : String} (needed : path ∈ m.dependencies) :
    (∃ r' ∈ rs, ∃ part' m', r'.HasPart naming part' m' ∧ m'.path = path) ∨
      ∃ r' ∈ rs, ∃ name ∈ r'.classNames, path = classPath (Text.camelCase r'.name) name := by
  obtain ⟨e, listed, of⟩ := h.owner member
  cases hasPart with
  | dataClass inClasses made =>
      obtain ⟨imports, filters, importsMade, -, rfl⟩ := Descriptor.toModule_eq_ok.1 made
      obtain ⟨i, imported, read⟩ := List.mem_filterMap.1 needed
      obtain ⟨r', member', part, name, hasClass, source, -⟩ :=
        h.classImport_target member of (of.isClassOf inClasses) importsMade imported
      rw [source, generatedPath?_ofClass, Option.some.injEq] at read
      exact .inr ⟨r', member', name, Resource.mem_classNames.2 ⟨part, hasClass⟩, read.symm⟩
  | enumeration => cases needed
  | service => cases needed
  | controller =>
      obtain ⟨endpoints, -, rendered⟩ := Controller.toModule_eq_ok.1 of.controllerModule
      obtain ⟨-, -, -, service, -, -⟩ := h.controller_eq listed of
      rw [rendered] at needed
      rcases List.mem_cons.1 needed with rfl | isClass
      · exact .inl ⟨r, member, _, _, .service, service.symm⟩
      · obtain ⟨i, imported, read⟩ := List.mem_filterMap.1 isClass
        obtain ⟨r', member', kind, name, hasClass, rfl⟩ := h.controllerImport_target member listed of imported
        rw [generatedPath?_ofClass, Option.some.injEq] at read
        exact .inr ⟨r', member', name, Resource.mem_classNames.2 ⟨_, hasClass⟩, read.symm⟩
  | wiring =>
      simp only [Resource.wiring, wiringModule, List.mem_cons, List.not_mem_nil, or_false] at needed
      rcases needed with rfl | rfl
      · exact .inl ⟨r, member, _, _, .service, rfl⟩
      · exact .inl ⟨r, member, _, _, .controller, rfl⟩
  | tests =>
      obtain ⟨plan, -, rendered⟩ := testModule_eq_ok.1 of.tests
      simp only [rendered, TestPlan.moduleWith, List.mem_cons, List.not_mem_nil, or_false] at needed
      rcases needed with rfl | rfl
      · exact .inl ⟨r, member, _, _, .service, rfl⟩
      · exact .inl ⟨r, member, _, _, .wiring, rfl⟩

/-- The line of an import of a controller tells which import it is. -/
theorem controllerImport_eq_of_line (h : schema.Generated naming classes byName rs) (member : r ∈ rs)
    (listed : e ∈ schema.entities) (of : Resource.Of schema naming classes byName e r) {i : Import}
    (imported : i ∈ r.controller.classImports) {r' : Resource} (member' : r' ∈ rs)
    (same : i.line = (Import.ofClass (Text.camelCase r'.name) name).line) :
    i = Import.ofClass (Text.camelCase r'.name) name := by
  obtain ⟨r'', member'', kind, name', -, rfl⟩ := h.controllerImport_target member listed of imported
  obtain ⟨owners, names⟩ := Import.ofClass_inj_of_line (h.plain_camelCase member'') (h.plain_camelCase member') same
  rw [owners, names]

/-- The controller of a resource depends on each of its data classes. -/
theorem dataClass_mem_dependencies (h : schema.Generated naming classes byName rs) (member : r ∈ rs)
    (inClasses : d ∈ r.read :: r.inputs.toList) :
    classPath (Text.camelCase r.name) d.name.display ∈ r.controllerModule.dependencies := by
  obtain ⟨e, listed, of⟩ := h.owner member
  obtain ⟨read, entityType, inputs, -⟩ := h.controller_eq listed of
  obtain ⟨endpoints, -, rendered⟩ := Controller.toModule_eq_ok.1 of.controllerModule
  have own : Import.ofClass (Text.camelCase r.name) d.name.display ∈
      (r.controller.read :: r.controller.inputs.toList).map fun d =>
        Import.ofClass (Text.camelCase r.controller.entityType) d.name.display := by
    rw [read, entityType, inputs]
    exact List.mem_map_of_mem inClasses
  -- another import with the same line may have been kept in its place
  obtain ⟨i, imported, same⟩ := exists_mem_distinctBy Import.line (List.mem_append_left _ own)
  have kept := h.controllerImport_eq_of_line member listed of imported member same
  rw [rendered]
  exact List.mem_cons_of_mem _ (List.mem_filterMap.2 ⟨i, imported, by rw [kept, generatedPath?_ofClass]⟩)

/-- The class that creates depends on each enumeration, unless it has its name. -/
theorem enumeration_mem_dependencies (h : schema.Generated naming classes byName rs) (member : r ∈ rs)
    {enumeration : EnumDescriptor} (inEnums : enumeration ∈ r.enumerations)
    (other : enumeration.name ≠ r.inputs.createInput.name) {create : SourceModule}
    (made : r.inputs.createInput.toModule (r.identifier naming) = .ok create) :
    classPath (Text.camelCase r.name) enumeration.name.display ∈ create.dependencies := by
  obtain ⟨e, listed, of⟩ := h.owner member
  obtain ⟨f, field, step⟩ := exists_mem_of_mapM_eq_ok of.enumerations inEnums
  obtain ⟨inEntity, enumerates⟩ := List.mem_filter.1 field
  have created := (inputDescriptors_eq_ok.1 of.inputs).1
  obtain ⟨p, inClass, reference⟩ := createDescriptor_reference created inEntity enumerates (enumName_of_ofField step)
  have refers : { name := enumeration.name, kind := .enumeration, entity := e.name } ∈ r.inputs.createInput.references := by
    refine List.mem_filter.2 ⟨List.mem_filterMap.2 ⟨p, inClass, reference⟩, ?_⟩
    rw [Bool.not_eq_true', ← Bool.not_eq_true]
    intro same
    exact other (eq_of_sameKey_text ((Descriptor.IsClassOf.create created).name_eq of.name) same)
  obtain ⟨imports, filters, importsMade, -, rfl⟩ := Descriptor.toModule_eq_ok.1 made
  obtain ⟨i, imported, -, same⟩ := Descriptor.exists_import importsMade refers (by simp) of.name
  obtain ⟨r', member', part, name, hasClass, source, -⟩ :=
    h.classImport_target member of (.create created) importsMade imported
  rw [source] at same
  obtain ⟨owners, names⟩ := Import.ofClass_inj_of_line (h.plain_camelCase member') (h.plain_camelCase member) same
  refine List.mem_filterMap.2 ⟨i, imported, ?_⟩
  rw [source, generatedPath?_ofClass, owners, names]

/-- Each class of the batch is, under the camelCase form of its entity, a dependency of a module. -/
theorem exists_dependency (h : schema.Generated naming classes byName rs) (member : r ∈ rs) (listed : name ∈ r.classNames) :
    ∃ part m, r.HasPart naming part m ∧ classPath (Text.camelCase r.name) name ∈ m.dependencies := by
  obtain ⟨e, inBatch, of⟩ := h.owner member
  have create : r.inputs.createInput ∈ r.inputs.toList := List.mem_cons_self
  obtain ⟨part, hasClass⟩ := Resource.mem_classNames.1 listed
  cases hasClass with
  | dataClass inClasses => exact ⟨_, _, .controller, h.dataClass_mem_dependencies member inClasses⟩
  | @enumeration enumeration inEnums =>
      by_cases same : enumeration.name = r.inputs.createInput.name
      · rw [same]
        exact ⟨_, _, .controller, h.dataClass_mem_dependencies member (List.mem_cons_of_mem _ create)⟩
      · obtain ⟨m, -, made⟩ := mem_results_of_mapM_eq_ok of.inputModules create
        exact ⟨_, m, .dataClass (List.mem_cons_of_mem _ create) made,
          h.enumeration_mem_dependencies member inEnums same made⟩

/-- All dependencies of a batch resolve iff each of its classes is found under the camelCase form of its entity. -/
theorem dependenciesResolve_iff (h : schema.Generated naming classes byName rs) :
    DependenciesResolve (rs.flatMap (Resource.block naming) ++ rs.map Resource.readModule) ↔
      ∀ r ∈ rs, ∀ name ∈ r.classNames, ∃ m ∈ rs.flatMap (Resource.block naming) ++ rs.map Resource.readModule,
        m.path = classPath (Text.camelCase r.name) name := by
  constructor
  · intro resolve r member name listed
    obtain ⟨part, m, hasPart, needed⟩ := h.exists_dependency member listed
    exact resolve m (h.mem_modules.2 ⟨r, member, part, hasPart⟩) _ needed
  · intro found m listed path needed
    obtain ⟨r, member, part, hasPart⟩ := h.mem_modules.1 listed
    rcases h.dependency_cases member hasPart needed with ⟨r', member', part', m', hasPart', path⟩ | isClass
    · exact ⟨m', h.mem_modules.2 ⟨r', member', part', hasPart'⟩, path⟩
    · obtain ⟨r', member', name, listed', rfl⟩ := isClass
      exact found r' member' name listed'

/-- All dependencies of a batch resolve if its identifiers are the camelCase forms of its entities. -/
theorem dependenciesResolve_of_camelCase (h : schema.Generated naming classes byName rs)
    (agree : ∀ r ∈ rs, r.identifier naming = Text.camelCase r.name) :
    DependenciesResolve (rs.flatMap (Resource.block naming) ++ rs.map Resource.readModule) := by
  rw [h.dependenciesResolve_iff]
  intro r member name listed
  obtain ⟨e, -, of⟩ := h.owner member
  obtain ⟨part, m, hasPart, path⟩ := of.exists_module listed
  rw [agree r member] at path
  exact ⟨m, h.mem_modules.2 ⟨r, member, part, hasPart⟩, path⟩

end Schema.Generated

/-! ## When all dependencies resolve -/

variable {modules : List SourceModule}

/-- All dependencies of a generation are paths of its modules iff each class of each entity is found under the camelCase form
of the name of the entity; and they are if that form is the identifier of each entity. -/
theorem generate_dependencies_resolve_iff (h : (schema.generate naming).outcome = .ok modules) :
    (DependenciesResolve modules ↔
      ∀ e ∈ schema.entities, ∃ names, e.classNames = .ok names ∧
        ∀ name ∈ names, ∃ m ∈ modules, m.path = classPath (Text.camelCase e.name.display) name) ∧
    ((∀ e ∈ schema.entities, e.identifier naming = Text.camelCase e.name.display) → DependenciesResolve modules) := by
  obtain ⟨classes, byName, rs, generated, rfl⟩ := generate_eq_ok h
  constructor
  · rw [generated.dependenciesResolve_iff]
    constructor
    · intro found e inBatch
      obtain ⟨r, member, of⟩ := generated.resource inBatch
      rw [of.name, Value.display_text]
      exact ⟨r.classNames, of.classNames_eq_ok, found r member⟩
    · intro found r member name listed
      obtain ⟨e, inBatch, of⟩ := generated.owner member
      obtain ⟨names, made, each⟩ := found e inBatch
      rw [of.classNames_eq_ok] at made
      cases made
      rw [of.name, Value.display_text] at each
      exact each name listed
  · intro agree
    refine generated.dependenciesResolve_of_camelCase fun r member => ?_
    obtain ⟨e, inBatch, of⟩ := generated.owner member
    have same := agree e inBatch
    rwa [of.identifier_eq, of.name, Value.display_text] at same

/-- A schema of one entity without fields. -/
def Schema.post : Schema :=
  { entities := [{ name := .text "Post", id := .null, fields := [] }], ids := [] }

/-- The default names, except that the modules of `Post` stand under another identifier. -/
def blogPostNaming : NamingStrategy := fun name =>
  if name = "Post" then
    { entityType := "Post", entityName := "blogPost", resource := "posts", modulePath := "blogPost/blogPost_module.py" }
  else ResourceNaming.derive name

/-- Under the other identifier, the dependencies on the classes of `Post` do not resolve. -/
theorem Schema.renamedPost_dependencies : ∃ modules, (post.generate blogPostNaming).outcome = .ok modules ∧
    (DependenciesResolve modules ↔
      ∀ e ∈ post.entities, ∃ names, e.classNames = .ok names ∧
        ∀ name ∈ names, ∃ m ∈ modules, m.path = classPath (Text.camelCase e.name.display) name) ∧
    ¬ DependenciesResolve modules := by
  have paths : (post.generate blogPostNaming).outcome.map (fun modules => modules.map SourceModule.path) =
      .ok ["blogPost/base/PostCreateInput.py", "blogPost/base/PostUpdateInput.py", "blogPost/base/PostWhereInput.py",
        "blogPost/base/PostWhereUniqueInput.py", "blogPost/blogPost_service.py", "blogPost/blogPost_controller.py",
        "blogPost/blogPost_module.py", "blogPost/test_blogPost_controller.py", "blogPost/base/Post.py"] := rfl
  cases made : (post.generate blogPostNaming).outcome with
  | error fault =>
      rw [made] at paths
      cases paths
  | ok modules =>
      rw [made] at paths
      have condition := (generate_dependencies_resolve_iff made).1
      refine ⟨modules, rfl, condition, fun resolve => ?_⟩
      obtain ⟨names, named, each⟩ := condition.1 resolve _ List.mem_cons_self
      have first : "Post" ∈ names := by
        cases named
        exact List.mem_append_left _ List.mem_cons_self
      obtain ⟨m, listed, path⟩ := each "Post" first
      have found : classPath (Text.camelCase "Post") "Post" ∈ modules.map SourceModule.path :=
        List.mem_map.2 ⟨m, listed, path⟩
      have listedPaths : modules.map SourceModule.path = _ := Except.ok.inj paths
      rw [listedPaths] at found
      revert found
      decide

end ResourceScaffold
