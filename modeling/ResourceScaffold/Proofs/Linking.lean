import ResourceScaffold.Proofs.Loading
import ResourceScaffold.Proofs.Resources

/-!
# Where the imports of generated modules lead

The modules of an entity are of six kinds (`Part`), and each kind has a level: enumerations, services and the classes that
identify are at the bottom, then come the other classes, controllers, wiring modules and tests. `Resource.Provides` says that
an import takes its names from the module of a kind.

Importer and imported module compute path and name on their own. That the names agree follows from how a reference arises:
what a data class imports is a class of an entity of the batch or an enumeration of its own entity
(`Schema.Generated.classImport_target`), and what a controller imports is its service, one of its own classes or a class of
a related entity (`Schema.Generated.controllerImport_target`). The path is looked for under the camelCase form of the name
of that entity, which is its identifier with the default names (`Schema.Generated.classImport_provided`,
`Schema.Generated.controllerImport_provided`).
-/

namespace ResourceScaffold

open Code

/-! ## Kinds of modules -/

/-- The kinds of modules of an entity. -/
inductive Part where
  | dataClass (kind : DescriptorKind)
  | enumeration
  | service
  | controller
  | wiring
  | tests
  deriving DecidableEq, Repr

/-- The level of a kind of modules: what is imported first is lower, except that classes may refer to each other. -/
def Part.level : Part → Nat
  | dataClass .whereUniqueInput | enumeration | service => 0
  | dataClass _ => 1
  | controller => 2
  | wiring => 3
  | tests => 4

namespace Resource

variable {naming : NamingStrategy} {r : Resource} {part : Part} {m : SourceModule}

/-- A module of a resource, of a kind. -/
inductive HasPart (naming : NamingStrategy) (r : Resource) : Part → SourceModule → Prop where
  | dataClass {d : Descriptor} {m : SourceModule} (listed : d ∈ r.read :: r.inputs.toList)
      (made : d.toModule (r.identifier naming) = .ok m) : HasPart naming r (.dataClass d.kind) m
  | enumeration {d : EnumDescriptor} (listed : d ∈ r.enumerations) :
      HasPart naming r .enumeration (d.toModule (r.identifier naming))
  | service : HasPart naming r .service (r.service naming)
  | controller : HasPart naming r .controller r.controllerModule
  | wiring : HasPart naming r .wiring (r.wiring naming)
  | tests : HasPart naming r .tests r.tests

/-- The modules of a resource with their kinds, in order. -/
def parts (naming : NamingStrategy) (r : Resource) : List (Part × SourceModule) :=
  List.zipWith (fun d m => (.dataClass d.kind, m)) r.inputs.toList r.inputModules ++
    r.enumerations.map (fun d => (.enumeration, d.toModule (r.identifier naming))) ++
    [(.service, r.service naming), (.controller, r.controllerModule), (.wiring, r.wiring naming), (.tests, r.tests),
      (.dataClass r.read.kind, r.readModule)]

section

variable {schema : Schema} {classes : Table Descriptor} {byName : Table Entity} {e : Entity}

/-- The modules of the parts of a resource are its modules in order, and last the one of the class that is read. -/
theorem Of.parts_snd (h : Of schema naming classes byName e r) :
    (r.parts naming).map Prod.snd = r.block naming ++ [r.readModule] := by
  have inputs := mapM_eq_ok.1 h.inputModules
  have second : (List.zipWith (fun d m => (Part.dataClass d.kind, m)) r.inputs.toList r.inputModules).map Prod.snd =
      r.inputModules := by
    rw [List.map_zipWith, zipWith_right_of_forall₂ inputs]
  rw [parts, List.map_append, List.map_append, second, List.map_map, block, enumModules, List.append_assoc,
    List.append_assoc, List.append_assoc]
  rfl

/-- A module is listed among the parts of a resource iff the resource has it as that part. -/
theorem Of.mem_parts (h : Of schema naming classes byName e r) : (part, m) ∈ r.parts naming ↔ r.HasPart naming part m := by
  have inputs := mapM_eq_ok.1 h.inputModules
  simp only [parts, List.mem_append, List.mem_cons, List.not_mem_nil, or_false, List.mem_map, Prod.mk.injEq]
  constructor
  · rintro ((input | ⟨d, listed, rfl, rfl⟩) | ⟨rfl, rfl⟩ | ⟨rfl, rfl⟩ | ⟨rfl, rfl⟩ | ⟨rfl, rfl⟩ | ⟨rfl, rfl⟩)
    · obtain ⟨d, listed, m', made, same⟩ := exists_of_mem_zipWith inputs input
      cases same
      exact .dataClass (List.mem_cons_of_mem _ listed) made
    · exact .enumeration listed
    · exact .service
    · exact .controller
    · exact .wiring
    · exact .tests
    · exact .dataClass List.mem_cons_self h.readModule
  · intro hasPart
    cases hasPart with
    | @dataClass d m listed made =>
        rcases List.mem_cons.1 listed with rfl | input
        · rw [h.readModule] at made
          cases made
          simp
        · obtain ⟨m', made', member⟩ :=
            mem_zipWith_of_forall₂ (f := fun (d : Descriptor) m => (Part.dataClass d.kind, m)) inputs input
          rw [made'] at made
          cases made
          exact .inl (.inl member)
    | enumeration listed => exact .inl (.inr ⟨_, listed, rfl, rfl⟩)
    | service => simp
    | controller => simp
    | wiring => simp
    | tests => simp

end

/-- The import takes its names from the module of the resource of the given kind. -/
def Provides (naming : NamingStrategy) (r : Resource) (part : Part) (i : Import) : Prop :=
  ∃ m, r.HasPart naming part m ∧ i.generatedPath? = some m.path ∧ ∀ name ∈ i.names, name ∈ m.defines

section

variable {schema : Schema} {classes : Table Descriptor} {byName : Table Entity} {e : Entity} {d : Descriptor}

/-- The module of a class binds the class. -/
theorem name_mem_defines (d : Descriptor) (entityName : String) (imports : List ClassImport) (filters : List Filter) :
    d.name.display ∈ (d.moduleWith entityName imports filters).defines :=
  List.mem_flatMap.2 ⟨.define d.definition, by simp [Descriptor.moduleWith, Descriptor.opening],
    List.mem_singleton_self _⟩

/-- The resource has a class of that name, in a module of the kind. -/
inductive HasClass (r : Resource) : Part → String → Prop where
  | dataClass {d : Descriptor} (listed : d ∈ r.read :: r.inputs.toList) : HasClass r (.dataClass d.kind) d.name.display
  | enumeration {d : EnumDescriptor} (listed : d ∈ r.enumerations) : HasClass r .enumeration d.name.display

/-- The data class of each kind has the name of the entity with the suffix of the kind. -/
theorem Of.hasClass_kind (h : Of schema naming classes byName e r) (kind : DescriptorKind) :
    r.HasClass (.dataClass kind) (r.name ++ kind.suffix) := by
  have kinds := classes_kinds h.read h.inputs
  obtain ⟨d, listed, rfl⟩ := List.mem_map.1 (kinds ▸ kind.mem_all)
  have isClass := HasClass.dataClass listed
  rwa [(h.isClassOf listed).name_eq h.name, Value.display_text] at isClass

/-- The enumeration of each field has the name that the field gives it. -/
theorem Of.hasClass_enumeration (h : Of schema naming classes byName e r) {f : Field} (field : f ∈ e.enumFields)
    {name : Value} (named : enumName e f = .ok name) : r.HasClass .enumeration name.display := by
  obtain ⟨d, listed, made⟩ := mem_results_of_mapM_eq_ok h.enumerations field
  rw [enumName_of_ofField made] at named
  cases named
  exact .enumeration listed

/-- Each data class has a module. -/
theorem Of.exists_toModule (h : Of schema naming classes byName e r) {d : Descriptor}
    (listed : d ∈ r.read :: r.inputs.toList) : ∃ m, d.toModule (r.identifier naming) = .ok m := by
  rcases List.mem_cons.1 listed with rfl | input
  · exact ⟨_, h.readModule⟩
  · obtain ⟨m, -, made⟩ := mem_results_of_mapM_eq_ok h.inputModules input
    exact ⟨m, made⟩

/-- Each class is provided under its name. -/
theorem Of.provides (h : Of schema naming classes byName e r) {name : String} (hasClass : r.HasClass part name) :
    r.Provides naming part (Import.ofClass (r.identifier naming) name) := by
  cases hasClass with
  | @dataClass d listed =>
      obtain ⟨m, made⟩ := h.exists_toModule listed
      refine ⟨m, .dataClass listed made, congrArg some (Descriptor.path_of_toModule made).symm, fun name wanted => ?_⟩
      obtain ⟨imports, filters, -, -, rfl⟩ := Descriptor.toModule_eq_ok.1 made
      rw [List.mem_singleton.1 wanted]
      exact name_mem_defines d _ _ _
  | enumeration listed => exact ⟨_, .enumeration listed, rfl, fun name wanted => wanted⟩

/-- The import of the service of a resource. -/
def serviceImport (naming : NamingStrategy) (r : Resource) : Import :=
  { origin := .generated (r.service naming).path, names := [serviceClass r.name] }

/-- The import of the router of a resource and of what gets its service. -/
def controllerImport (r : Resource) : Import :=
  { origin := .generated r.controllerModule.path, names := ["get_service", "router"] }

/-- The import of the wiring class of a resource. -/
def wiringImport (naming : NamingStrategy) (r : Resource) : Import :=
  { origin := .generated (r.wiring naming).path, names := [wiringClass r.name] }

/-- The module of the service provides what imports of the service take. -/
theorem provides_service (naming : NamingStrategy) (r : Resource) : r.Provides naming .service (r.serviceImport naming) :=
  ⟨_, .service, rfl, fun _ wanted => wanted⟩

/-- The wiring module provides the application. -/
theorem provides_wiring (naming : NamingStrategy) (r : Resource) : r.Provides naming .wiring (r.wiringImport naming) :=
  ⟨_, .wiring, rfl, fun _ wanted => wanted⟩

/-- The module of the controller provides the router. -/
theorem Of.provides_controller (h : Of schema naming classes byName e r) :
    r.Provides naming .controller r.controllerImport := by
  refine ⟨_, .controller, rfl, fun name wanted => ?_⟩
  obtain ⟨endpoints, -, rendered⟩ := Controller.toModule_eq_ok.1 h.controllerModule
  have opened : name ∈ r.controller.opening.flatMap Statement.defines := by
    simp only [controllerImport, List.mem_cons, List.not_mem_nil, or_false] at wanted
    rcases wanted with rfl | rfl <;> simp [Controller.opening, Statement.defines]
  rw [rendered, SourceModule.defines, Controller.moduleWith, List.flatMap_append]
  exact List.mem_append_left _ opened

end

end Resource

/-! ## What the modules of each kind import -/

/-- The direct imports are those that are not deferred. -/
theorem mem_directImports {imports : List ClassImport} {i : Import} :
    i ∈ directImports imports ↔ { deferred := false, source := i } ∈ imports := by
  rw [directImports, sortImports, List.mem_mergeSort, List.mem_map]
  constructor
  · rintro ⟨⟨deferred, source⟩, member, rfl⟩
    obtain ⟨listed, direct⟩ := List.mem_filter.1 member
    cases deferred with
    | false => exact listed
    | true => cases direct
  · exact fun member => ⟨_, List.mem_filter.2 ⟨member, rfl⟩, rfl⟩

/-- The deferred ones are those that are. -/
theorem mem_deferredImports {imports : List ClassImport} {i : Import} :
    i ∈ deferredImports imports ↔ { deferred := true, source := i } ∈ imports := by
  rw [deferredImports, sortImports, List.mem_mergeSort, List.mem_map]
  constructor
  · rintro ⟨⟨deferred, source⟩, member, rfl⟩
    obtain ⟨listed, late⟩ := List.mem_filter.1 member
    cases deferred with
    | false => cases late
    | true => exact listed
  · exact fun member => ⟨_, List.mem_filter.2 ⟨member, rfl⟩, rfl⟩

/-- Direct imports of generated modules are executed where they stand. -/
theorem filterMap_directImport?_importNames {imports : List Import} (generated : ∀ i ∈ imports, i.generatedPath?.isSome) :
    (imports.map Statement.importNames).filterMap Statement.directImport? = imports := by
  rw [List.filterMap_map]
  exact (congrFun List.filterMap_eq_filter imports).trans (List.filter_eq_self.2 generated)

/-- Late imports of generated modules are executed after the class. -/
theorem filterMap_lateImport?_importLate {imports : List Import} (generated : ∀ i ∈ imports, i.generatedPath?.isSome) :
    (imports.map Statement.importLate).filterMap Statement.lateImport? = imports := by
  rw [List.filterMap_map]
  exact (congrFun List.filterMap_eq_filter imports).trans (List.filter_eq_self.2 generated)

/-- Each import of a data class is made from a reference of the class to another generated one. -/
theorem Descriptor.exists_reference {d : Descriptor} {imports : List ClassImport} (made : d.classImports = .ok imports)
    {i : ClassImport} (listed : i ∈ imports) :
    ∃ ref ∈ d.references, ref.kind ≠ .filter ∧ i.deferred = ref.kind.isDeferred ∧
      ref.entity.IsText ∧ i.source = Import.ofClass (Text.camelCase ref.entity.display) ref.name.display := by
  obtain ⟨all, steps, distinct⟩ := bind_eq_ok.1 made
  cases distinct
  obtain ⟨ref, inClass, step⟩ := exists_mem_of_mapM_eq_ok steps (mem_of_mem_distinctBy listed)
  obtain ⟨source, sourceMade, rest⟩ := bind_eq_ok.1 step
  cases rest
  obtain ⟨owner, ownerText, rest⟩ := bind_eq_ok.1 sourceMade
  cases rest
  obtain ⟨inClass, other⟩ := List.mem_filter.1 inClass
  have text : ref.entity.IsText ∧ ref.entity.display = owner := by
    cases entity : ref.entity <;> rw [entity] at ownerText <;> cases ownerText
    · exact ⟨.text _, rfl⟩
    · exact ⟨.illFormed _, rfl⟩
  exact ⟨ref, inClass, by simpa using other, rfl, text.1, by rw [text.2]⟩

/-- The classes that a class needs are imported from generated modules. -/
theorem Descriptor.classImports_generated {d : Descriptor} {imports : List ClassImport} (made : d.classImports = .ok imports)
    {i : ClassImport} (listed : i ∈ imports) : i.source.generatedPath?.isSome := by
  obtain ⟨ref, -, -, -, -, source⟩ := d.exists_reference made listed
  rw [source]
  rfl

section dataClass

variable {d : Descriptor} {imports : List ClassImport} {filters : List Filter}

/-- Of the statements up to a class, only imports are imports. -/
theorem filterMap_opening {f : Statement → Option Import} (blank : f .blank = none)
    (define : ∀ c, f (.define c) = none) (types : ∀ is, f (.importForTypes is) = none)
    (library : ∀ deferring, (libraryImports deferring).filterMap f = []) :
    (d.opening imports filters).filterMap f = ((directImports imports).map .importNames).filterMap f := by
  have direct : (if (directImports imports).isEmpty then []
      else .blank :: (directImports imports).map Statement.importNames).filterMap f =
      ((directImports imports).map .importNames).filterMap f := by
    cases directImports imports with
    | nil => rfl
    | cons i rest => exact List.filterMap_cons_none blank
  have forTypes : (if (deferredImports imports).isEmpty then []
      else [.blank, .importForTypes (deferredImports imports)]).filterMap f = [] := by
    split
    · rfl
    · simp [blank, types]
  have filterClasses : (filters.flatMap fun f => [.define f.definition, .blank, .blank]).filterMap f = [] := by
    rw [List.filterMap_eq_nil_iff]
    intro s member
    obtain ⟨filter, -, found⟩ := List.mem_flatMap.1 member
    simp only [List.mem_cons, List.not_mem_nil, or_false] at found
    rcases found with rfl | rfl | rfl
    · exact define _
    · exact blank
    · exact blank
  simp only [Descriptor.opening, List.filterMap_append, library, direct, forTypes, filterClasses]
  simp [blank, define]

/-- Up to a class, its direct imports are executed. -/
theorem directImports_opening (made : d.classImports = .ok imports) :
    (d.opening imports filters).filterMap Statement.directImport? = directImports imports := by
  rw [filterMap_opening rfl (fun _ => rfl) (fun _ => rfl) (fun deferring => by cases deferring <;> rfl)]
  exact filterMap_directImport?_importNames fun i member => d.classImports_generated made (mem_directImports.1 member)

/-- After the class there are no direct imports. -/
theorem directImports_lateImports : (lateImports imports).filterMap Statement.directImport? = [] := by
  rw [lateImports]
  split
  · rfl
  · rw [List.filterMap_eq_nil_iff]
    intro s member
    simp only [List.mem_cons, List.mem_map] at member
    rcases member with rfl | rfl | ⟨i, -, rfl⟩ <;> rfl

/-- A data class imports its direct imports before the class. -/
theorem directImports_moduleWith (made : d.classImports = .ok imports) (entityName : String) :
    (d.moduleWith entityName imports filters).body.filterMap Statement.directImport? = directImports imports := by
  rw [Descriptor.moduleWith, List.filterMap_append, directImports_opening made, directImports_lateImports,
    List.append_nil]

/-- Up to the class there are no late ones. -/
theorem lateImports_opening : (d.opening imports filters).filterMap Statement.lateImport? = [] := by
  rw [filterMap_opening rfl (fun _ => rfl) (fun _ => rfl) (fun deferring => by cases deferring <;> rfl),
    List.filterMap_eq_nil_iff]
  intro s member
  obtain ⟨i, -, rfl⟩ := List.mem_map.1 member
  rfl

/-- After the class, the deferred imports are executed. -/
theorem lateImports_lateImports (made : d.classImports = .ok imports) :
    (lateImports imports).filterMap Statement.lateImport? = deferredImports imports := by
  have late : ∀ i ∈ deferredImports imports, i.generatedPath?.isSome := fun i member =>
    d.classImports_generated made (mem_deferredImports.1 member)
  rw [lateImports]
  cases found : deferredImports imports with
  | nil => rfl
  | cons i rest =>
      rw [found] at late
      exact filterMap_lateImport?_importLate late

/-- A data class imports its deferred imports after the class. -/
theorem lateImports_moduleWith (made : d.classImports = .ok imports) (entityName : String) :
    (d.moduleWith entityName imports filters).body.filterMap Statement.lateImport? = deferredImports imports := by
  rw [Descriptor.moduleWith, List.filterMap_append, lateImports_opening, lateImports_lateImports made, List.nil_append]

end dataClass

section others

/-- The import of the service that a controller uses. -/
def Controller.serviceImport (c : Controller) : Import :=
  { origin := .generated c.service, names := [serviceClass c.entityType] }

/-- The classes that a controller mentions are imported from generated modules. -/
theorem Controller.classImports_generated {c : Controller} {i : Import} (h : i ∈ c.classImports) :
    i.generatedPath?.isSome := by
  rcases List.mem_append.1 (mem_of_mem_distinctBy h) with own | related
  · obtain ⟨d, -, rfl⟩ := List.mem_map.1 own
    rfl
  · obtain ⟨relation, -, related⟩ := List.mem_flatMap.1 related
    rcases List.mem_cons.1 related with rfl | unique
    · rfl
    · split at unique
      · rw [List.mem_singleton.1 unique]
        rfl
      · cases unique

/-- Of the statements of a controller, only imports are imports. -/
theorem filterMap_controller {c : Controller} {endpoints : List Endpoint} {f : Statement → Option Import}
    (blank : f .blank = none) (assign : ∀ name value, f (.assign name value) = none)
    (function : ∀ name lines, f (.function name lines) = none) (endpoint : ∀ e, f (.endpoint e) = none)
    (module : ∀ name, f (.importModule name) = none)
    (library : ∀ name names, f (.importNames { origin := .library name, names }) = none) :
    (c.moduleWith endpoints).body.filterMap f = ((c.serviceImport :: c.classImports).map .importNames).filterMap f := by
  have routes : (endpoints.flatMap fun e => [.blank, .blank, .endpoint e]).filterMap f = [] := by
    rw [List.filterMap_eq_nil_iff]
    intro s member
    obtain ⟨e, -, found⟩ := List.mem_flatMap.1 member
    simp only [List.mem_cons, List.not_mem_nil, or_false] at found
    rcases found with rfl | rfl | rfl
    · exact blank
    · exact blank
    · exact endpoint e
  have date : (if c.keyIsDate then [Statement.importNames { origin := .library "datetime", names := ["datetime"] }]
      else []).filterMap f = [] := by
    split
    · simp [library]
    · rfl
  rw [Controller.moduleWith, Controller.opening, Controller.serviceImport]
  simp only [List.filterMap_append, List.map_cons, List.filterMap_cons, List.filterMap_nil, routes, date, blank, assign,
    function, module, library, List.nil_append, List.append_nil]
  split <;> rfl

/-- A controller imports its service and its classes before it defines anything. -/
theorem directImports_controller (c : Controller) (endpoints : List Endpoint) :
    (c.moduleWith endpoints).body.filterMap Statement.directImport? = c.serviceImport :: c.classImports := by
  rw [filterMap_controller rfl (fun _ _ => rfl) (fun _ _ => rfl) (fun _ => rfl) (fun _ => rfl) (fun _ _ => rfl)]
  refine filterMap_directImport?_importNames fun i member => ?_
  rcases List.mem_cons.1 member with rfl | listed
  · rfl
  · exact c.classImports_generated listed

/-- A controller has no late imports. -/
theorem lateImports_controller (c : Controller) (endpoints : List Endpoint) :
    (c.moduleWith endpoints).body.filterMap Statement.lateImport? = [] := by
  rw [filterMap_controller rfl (fun _ _ => rfl) (fun _ _ => rfl) (fun _ => rfl) (fun _ => rfl) (fun _ _ => rfl),
    List.filterMap_eq_nil_iff]
  intro s member
  obtain ⟨i, -, rfl⟩ := List.mem_map.1 member
  rfl

/-- A wiring module imports its controller and its service. -/
theorem directImports_wiring (naming : NamingStrategy) (r : Resource) :
    (r.wiring naming).body.filterMap Statement.directImport? = [r.controllerImport, r.serviceImport naming] := rfl

/-- Neither has the wiring. -/
theorem lateImports_wiring (naming : NamingStrategy) (r : Resource) :
    (r.wiring naming).body.filterMap Statement.lateImport? = [] := rfl

/-- Tests import their wiring module and their service. -/
theorem directImports_tests (plan : TestPlan) (resource entityName entityType service wiring : String) :
    (plan.moduleWith resource entityName entityType service wiring).body.filterMap Statement.directImport? =
      [{ origin := .generated wiring, names := [wiringClass entityType] },
       { origin := .generated service, names := [serviceClass entityType] }] := by
  rw [TestPlan.moduleWith]
  cases plan.key <;> rfl

/-- Neither have the tests. -/
theorem lateImports_tests (plan : TestPlan) (resource entityName entityType service wiring : String) :
    (plan.moduleWith resource entityName entityType service wiring).body.filterMap Statement.lateImport? = [] := by
  rw [TestPlan.moduleWith]
  cases plan.key <;> rfl

end others

/-! ## Imports of data classes and controllers -/

namespace Schema.Generated

variable {schema : Schema} {classes : Table Descriptor} {byName : Table Entity} {rs : List Resource} {e : Entity}
  {r : Resource} {d : Descriptor}

/-- The modules of a batch are those of the kinds of its resources. -/
theorem mem_modules {naming : NamingStrategy} (h : schema.Generated naming classes byName rs) {m : SourceModule} :
    m ∈ rs.flatMap (Resource.block naming) ++ rs.map Resource.readModule ↔ ∃ r ∈ rs, ∃ part, r.HasPart naming part m := by
  rw [(modules_perm naming rs).mem_iff, List.mem_flatMap]
  refine exists_congr fun r => and_congr_right fun member => ?_
  obtain ⟨e, -, of⟩ := h.owner member
  rw [← of.parts_snd, List.mem_map]
  constructor
  · rintro ⟨⟨part, m'⟩, listed, rfl⟩
    exact ⟨part, of.mem_parts.1 listed⟩
  · rintro ⟨part, hasPart⟩
    exact ⟨(part, m), of.mem_parts.2 hasPart, rfl⟩

/-- Each import of a data class names a class of a resource, under the camelCase form of the entity; the deferred ones are
those that do not lead to the bottom. -/
theorem classImport_target {naming : NamingStrategy} (h : schema.Generated naming classes byName rs) (member : r ∈ rs)
    (of : Resource.Of schema naming classes byName e r) (isClass : d.IsClassOf schema.ids e)
    {imports : List ClassImport} (made : d.classImports = .ok imports) {i : ClassImport} (listed : i ∈ imports) :
    ∃ r' ∈ rs, ∃ part name, r'.HasClass part name ∧ i.source = Import.ofClass (Text.camelCase r'.name) name ∧
      part.level = if i.deferred then 1 else 0 := by
  obtain ⟨ref, inClass, other, deferred, -, source⟩ := d.exists_reference made listed
  rw [source, deferred]
  cases (isClass.references inClass).1 with
  | @relation f target kind field relates found refers =>
      obtain ⟨r', listed', related⟩ := h.target of (List.mem_filter.2 ⟨field, relates⟩)
      rw [related] at found
      cases found
      obtain ⟨e', -, of'⟩ := h.owner listed'
      refine ⟨r', listed', .dataClass kind, _, of'.hasClass_kind kind, rfl, ?_⟩
      have possible : d.kind.target? = some kind → (Part.dataClass kind).level =
          if kind.reference.isDeferred then 1 else 0 := by
        cases d.kind <;> cases kind <;> decide
      exact possible refers
  | @enumeration f name field enumerates named =>
      refine ⟨r, member, .enumeration, _, of.hasClass_enumeration (List.mem_filter.2 ⟨field, enumerates⟩) named, ?_, rfl⟩
      rw [of.name, Value.display_text]
  | filter => exact absurd rfl other

/-- Each class that a controller imports is one of a resource, under the camelCase form of the entity. -/
theorem controllerImport_target {naming : NamingStrategy} (h : schema.Generated naming classes byName rs)
    (member : r ∈ rs) (listed : e ∈ schema.entities) (of : Resource.Of schema naming classes byName e r) {i : Import}
    (imported : i ∈ r.controller.classImports) :
    ∃ r' ∈ rs, ∃ kind name, r'.HasClass (.dataClass kind) name ∧ i = Import.ofClass (Text.camelCase r'.name) name := by
  obtain ⟨read, entityType, inputs, -⟩ := h.controller_eq listed of
  have found := mem_of_mem_distinctBy imported
  rw [read, entityType, inputs] at found
  rcases List.mem_append.1 found with own | related
  · obtain ⟨d, inClasses, rfl⟩ := List.mem_map.1 own
    exact ⟨r, member, d.kind, _, .dataClass inClasses, rfl⟩
  · obtain ⟨relation, inRelations, related⟩ := List.mem_flatMap.1 related
    obtain ⟨-, r', member', name, target, -⟩ := h.relation of inRelations
    obtain ⟨e', -, of'⟩ := h.owner member'
    rw [← name, ← target] at related
    rcases List.mem_cons.1 related with rfl | unique
    · exact ⟨r', member', r'.read.kind, _, .dataClass List.mem_cons_self, rfl⟩
    · split at unique
      · rw [List.mem_singleton.1 unique]
        exact ⟨r', member', .whereUniqueInput, _, of'.hasClass_kind .whereUniqueInput, rfl⟩
      · cases unique

/-- With the default names, each import of a data class leads to the module of its class. -/
theorem classImport_provided (h : schema.Generated ResourceNaming.derive classes byName rs) (member : r ∈ rs)
    (of : Resource.Of schema ResourceNaming.derive classes byName e r) (isClass : d.IsClassOf schema.ids e)
    {imports : List ClassImport} (made : d.classImports = .ok imports) {i : ClassImport} (listed : i ∈ imports) :
    ∃ r' ∈ rs, ∃ part, r'.Provides ResourceNaming.derive part i.source ∧
      part.level = if i.deferred then 1 else 0 := by
  obtain ⟨r', member', part, name, hasClass, source, level⟩ := h.classImport_target member of isClass made listed
  obtain ⟨e', -, of'⟩ := h.owner member'
  exact ⟨r', member', part, source ▸ of'.provides hasClass, level⟩

/-- With the default names, each class that a controller imports is in its module. -/
theorem controllerImport_provided (h : schema.Generated ResourceNaming.derive classes byName rs) (member : r ∈ rs)
    (listed : e ∈ schema.entities) (of : Resource.Of schema ResourceNaming.derive classes byName e r) {i : Import}
    (imported : i ∈ r.controller.classImports) :
    ∃ r' ∈ rs, ∃ kind, r'.Provides ResourceNaming.derive (.dataClass kind) i ∧
      ∃ name, i = Import.ofClass (r'.identifier ResourceNaming.derive) name := by
  obtain ⟨r', member', kind, name, hasClass, rfl⟩ := h.controllerImport_target member listed of imported
  obtain ⟨e', -, of'⟩ := h.owner member'
  exact ⟨r', member', kind, of'.provides hasClass, name, rfl⟩

end Schema.Generated

end ResourceScaffold
